import Stateform.Http.Text

/-!
# Headers, requests and responses

The part of the `http` crate the gateway stands on. A `HeaderName` is a
lower-case token by construction, a `HeaderMap` is its list of fields in
iteration order (a name may repeat), and `get` returns the first field of a
name, whatever the case of the name asked for.
-/

namespace Stateform

/-! ## Names and values -/

/-- The bytes a stored (already lowered) header name is made of. -/
def isHeaderChar (c : Char) : Bool :=
  c.isLower || c.isDigit || c ∈ "!#$%&'*+-.^_`|~".toList

/-- A `HeaderName`: non-empty, lower-case token characters only. -/
structure HeaderName : Type where
  text : Str
  nonempty : text ≠ []
  token : text.all isHeaderChar = true
deriving DecidableEq

/-- `HeaderName::from_bytes`: lowers, and rejects what is not a token. -/
def HeaderName.fromBytes (s : Str) : Option HeaderName :=
  if h : toAsciiLowercase s ≠ [] ∧ (toAsciiLowercase s).all isHeaderChar = true then
    some ⟨toAsciiLowercase s, h.1, h.2⟩
  else none

/-- A `HeaderValue`: its bytes. -/
abbrev HeaderValue : Type := List UInt8

def isVisibleAscii (b : UInt8) : Bool := (32 ≤ b && b < 127) || b == 9

/-- `HeaderValue::to_str`: the text, when every byte is visible ASCII. -/
def HeaderValue.toStr (v : HeaderValue) : Option Str :=
  if v.all isVisibleAscii then some (v.map fun b => Char.ofNat b.toNat) else none

/-- `HeaderValue::from_str`. -/
def HeaderValue.fromStr (s : Str) : Option HeaderValue :=
  let v : HeaderValue := s.map fun c => c.toNat.toUInt8
  if s.all (fun c => decide (c.toNat < 128)) ∧ v.all isVisibleAscii then some v else none

/-! ## Header maps -/

structure HeaderMap : Type where
  fields : List (HeaderName × HeaderValue)
deriving DecidableEq

namespace HeaderMap

def empty : HeaderMap := ⟨[]⟩

/-- `HeaderMap::get` with a `&str` key: the first value of the name. A key that
is no header name is the text of no stored name. -/
def get (h : HeaderMap) (name : Str) : Option HeaderValue :=
  (h.fields.find? (fun f => f.1.text = toAsciiLowercase name)).map Prod.snd

/-- `get(name).and_then(|v| v.to_str().ok())`. -/
def getStr (h : HeaderMap) (name : Str) : Option Str :=
  (h.get name).bind HeaderValue.toStr

/-- `HeaderMap::get_all`. -/
def getAll (h : HeaderMap) (name : Str) : List HeaderValue :=
  (h.fields.filter (fun f => f.1.text = toAsciiLowercase name)).map Prod.snd

def containsKey (h : HeaderMap) (name : Str) : Bool := (h.get name).isSome

/-- `HeaderMap::remove`: every field of the name goes. -/
def remove (h : HeaderMap) (name : Str) : HeaderMap :=
  ⟨h.fields.filter (fun f => f.1.text ≠ toAsciiLowercase name)⟩

/-- `HeaderMap::insert`: the name's fields are replaced by this one, in the
place of the first. -/
def insert (h : HeaderMap) (name : HeaderName) (value : HeaderValue) : HeaderMap :=
  if h.fields.any (fun f => f.1 = name) then
    ⟨h.fields.takeWhile (fun f => f.1 ≠ name) ++ (name, value) ::
      (h.fields.dropWhile (fun f => f.1 ≠ name)).filter (fun f => f.1 ≠ name)⟩
  else ⟨h.fields ++ [(name, value)]⟩

/-- `HeaderMap::append`, as a response builder's `header` does: after the name's
other fields. -/
def append (h : HeaderMap) (name : HeaderName) (value : HeaderValue) : HeaderMap :=
  let rest := h.fields.dropWhile (fun f => f.1 ≠ name)
  ⟨h.fields.takeWhile (fun f => f.1 ≠ name) ++ rest.takeWhile (fun f => f.1 = name) ++
    (name, value) :: rest.dropWhile (fun f => f.1 = name)⟩

end HeaderMap

/-! ## Requests and responses -/

/-- `PathAndQuery`: the request target, split at the first `?`. -/
structure PathAndQuery : Type where
  path : Str
  query : Option Str
deriving DecidableEq

/-- `PathAndQuery::as_str`. -/
def PathAndQuery.asStr (pq : PathAndQuery) : Str :=
  match pq.query with
  | some q => pq.path ++ '?' :: q
  | none => pq.path

/-- The part of a request URI the gateway reads: authority-form targets have
no path and query. -/
structure Uri : Type where
  pathAndQuery : Option PathAndQuery
deriving DecidableEq

/-- `Uri::path`. -/
def Uri.path (uri : Uri) : Str :=
  match uri.pathAndQuery with
  | some pq => pq.path
  | none => []

/-- `Uri::query`. -/
def Uri.query (uri : Uri) : Option Str := uri.pathAndQuery.bind PathAndQuery.query

/-- A `Request<Bytes>`. `peerCertificate` is the `PeerCertificate` extension:
the DER bytes of the client certificate the TLS layer verified. -/
structure Request : Type where
  method : Str
  uri : Uri
  headers : HeaderMap
  body : List UInt8
  peerCertificate : Option (List UInt8)
deriving DecidableEq

structure Response : Type where
  status : ℕ
  headers : HeaderMap
  body : List UInt8
deriving DecidableEq

end Stateform
