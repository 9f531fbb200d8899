import EpistemicCompiler.Base64Text
import EpistemicCompiler.ExpiringRegister
import EpistemicCompiler.TextEncodings

set_option autoImplicit false

/-!
# Signed requests

A mutation carries a signature over a text with one line for each covered component of the request
and a last one with the parameters. The control plane checks the signature and the clock, and then
reserves the nonce in a cache.
-/
namespace EpistemicCompiler.SignedRequests
open JsValues CanonicalJson Base64Text TextEncodings ExpiringRegister

variable (unit:UInt16)

def isJsSpace : Bool :=
 unit∈([0x09,0x0A,0x0B,0x0C,0x0D,0x20,0xA0,0x1680,0x2028,0x2029,0x202F,0x205F,0x3000,
  0xFEFF] : List UInt16) || (0x2000 ≤ unit && unit ≤ 0x200A)

def trim (text:JsString) : JsString :=
 ((text.dropWhile isJsSpace).reverse.dropWhile isJsSpace).reverse

def replacePair (first second:UInt16) (replacement:JsString) : JsString → JsString
 | a::b::rest =>
   if a=first && b=second then replacement++replacePair first second replacement rest
   else a::replacePair first second replacement (b::rest)
 | text => text

def parseInt (text:JsString) : JsNumber :=
 let text:=text.dropWhile isJsSpace
 let (negative,text):=match text with
  | 0x2D::rest => (true,rest)
  | 0x2B::rest => (false,rest)
  | text => (false,text)
 let digits:=text.takeWhile isDigit
 if digits=[] then .nan
 else toDouble (if negative then -(digitsValue digits:ℚ) else digitsValue digits)

def numberString (shortest:ℚ → JsString) : JsNumber → JsString
 | .finite value => numberText shortest value
 | .infinite negative => if negative then js "-Infinity" else js "Infinity"
 | .nan => js "NaN"

section

abbrev Headers := List (JsString×JsString)

structure MutationMessage where
 method : JsString
 authority : JsString
 targetUri : JsString
 headers : Headers
 body : List UInt8

inductive SignatureAlg where
 | ed25519
 | ecdsaP256Sha256

def SignatureAlg.text : SignatureAlg → JsString
 | .ed25519 => js "ed25519"
 | .ecdsaP256Sha256 => js "ecdsa-p256-sha256"

def mutationProfileTag : JsString := js "pi-hec-mutation-v1"

def maxCreatedSkewSeconds : ℚ := 30

def maxLifetimeSeconds : ℚ := 120

def signatureLabel : JsString := js "sig1"

structure SignatureParams where
 created : JsNumber
 expires : JsNumber
 nonce : JsString
 keyid : JsString
 alg : SignatureAlg
 covered : List JsString

def mutationSignatureComponents : List JsString :=
 [js "@method",js "@authority",js "@target-uri",js "content-digest",js "content-type",
  js "content-length",js "operation-id",js "x-hec-issued-at",js "x-hec-expires-at",
  js "x-hec-nonce"]

/-- What the platform provides: the case of letters, dates, hashes and signatures. -/
structure RequestServices (κ:Type) where
 toUpperCase : JsString → JsString
 toLowerCase : JsString → JsString
 dateParse : JsString → Option ℤ
 sha256 : List UInt8 → List UInt8
 shortest : ℚ → JsString
 verify : κ → SignatureAlg → List UInt8 → List UInt8 → Bool

variable {κ:Type} (services:RequestServices κ)

variable (params:SignatureParams)

def contentDigestSha256 (bytes:List UInt8) : JsString :=
 js "sha-256=:"++toBase64 (services.sha256 bytes)++js ":"

def sfEscape : JsString :=
 if unit=0x5C || unit=0x22 then [0x5C,unit] else [unit]

def sfString (value:JsString) : JsString := [0x22]++value.flatMap sfEscape++[0x22]

def sfByteSequence (bytes:List UInt8) : JsString := [0x3A]++toBase64 bytes++[0x3A]

def headerLookup (headers:Headers) (name:JsString) : Option JsString :=
 (headers.find? fun header=>services.toLowerCase header.1=services.toLowerCase name).map (·.2)

def componentValue (message:MutationMessage) (component:JsString) : Option JsString :=
 if component=js "@method" then some (services.toUpperCase message.method)
 else if component=js "@authority" then some (services.toLowerCase message.authority)
 else if component=js "@target-uri" then some message.targetUri
 else headerLookup services message.headers component

def innerList (covered:List JsString) : JsString :=
 [0x28]++[0x20].intercalate (covered.map sfString)++[0x29]

def signatureParamsInner : JsString :=
 innerList params.covered++js ";created="++numberString services.shortest params.created ++
  js ";expires="++numberString services.shortest params.expires ++
  js ";nonce="++sfString params.nonce++js ";keyid="++sfString params.keyid ++
  js ";alg="++sfString params.alg.text++js ";tag="++sfString mutationProfileTag

def componentLine (message:MutationMessage) (component:JsString) : Option JsString := do
 let value ← componentValue services message component
 pure (sfString component++js ": "++value)

def buildSignatureBase (message:MutationMessage) (params:SignatureParams) : Option JsString := do
 let lines ← params.covered.mapM (componentLine services message)
 pure ([0x0A].intercalate
  (lines++[js "\"@signature-params\": "++signatureParamsInner services params]))

def serializeSignatureInput : JsString :=
 signatureLabel++js "="++signatureParamsInner services params

def serializeSignature (signatureBytes:List UInt8) : JsString :=
 signatureLabel++js "="++sfByteSequence signatureBytes

def coveredFor (message:MutationMessage) : List JsString :=
 mutationSignatureComponents ++
  (if (headerLookup services message.headers (js "if-match")).isSome then [js "if-match"]
   else []) ++
  (if (headerLookup services message.headers (js "content-range")).isSome then
   [js "content-range"] else [])

structure SignMutationInput where
 message : MutationMessage
 keyid : JsString
 alg : SignatureAlg
 created : JsNumber
 expires : JsNumber
 nonce : JsString

def signMutationParams (input:SignMutationInput) : SignatureParams where
 created := input.created
 expires := input.expires
 nonce := input.nonce
 keyid := input.keyid
 alg := input.alg
 covered := coveredFor services input.message

structure SignedMutation where
 signatureInput : JsString
 signature : JsString
 params : SignatureParams

def signMutation (sign:SignatureAlg → List UInt8 → List UInt8) (input:SignMutationInput) :
    Option SignedMutation := do
 let params:=signMutationParams services input
 let base ← buildSignatureBase services input.message params
 pure ⟨serializeSignatureInput services params,
  serializeSignature (sign input.alg (utf8 base)),params⟩

end

def parseSfString (raw:JsString) : Option JsString :=
 let trimmed:=trim raw
 if trimmed.head?=some 0x22 && trimmed.getLast?=some 0x22 && 2 ≤ trimmed.length then
  some (replacePair 0x5C 0x5C [0x5C] (replacePair 0x5C 0x22 [0x22] (trimmed.drop 1).dropLast))
 else none

def parseSfByteSequence (raw:JsString) : Option (List UInt8) :=
 let trimmed:=trim raw
 if trimmed.head?=some 0x3A && trimmed.getLast?=some 0x3A && 2 ≤ trimmed.length then
  some (fromBase64 (trimmed.drop 1).dropLast)
 else none

def splitParams : JsString → Option (JsString×JsString)
 | 0x28::inner =>
   if 0x29∈inner then
    some (inner.takeWhile (·≠0x29),(inner.dropWhile (·≠0x29)).drop 1)
   else none
 | _ => none

structure ParsedParams where
 created : Option JsNumber := none
 expires : Option JsNumber := none
 nonce : Option JsString := none
 keyid : Option JsString := none
 alg : Option SignatureAlg := none
 tag : Option JsString := none

def parseAlg (value:JsString) : Option SignatureAlg :=
 if parseSfString value=some (js "ed25519") then some .ed25519
 else if parseSfString value=some (js "ecdsa-p256-sha256") then some .ecdsaP256Sha256
 else none

def parsePiece (parsed:ParsedParams) (piece:JsString) : Option ParsedParams :=
 if piece=[] then some parsed
 else if 0x3D ∉ piece then none
 else
  let name:=piece.takeWhile (·≠0x3D)
  let value:=(piece.dropWhile (·≠0x3D)).drop 1
  if name=js "created" then some { parsed with created:=some (parseInt value) }
  else if name=js "expires" then some { parsed with expires:=some (parseInt value) }
  else if name=js "nonce" then some { parsed with nonce:=parseSfString value }
  else if name=js "keyid" then some { parsed with keyid:=parseSfString value }
  else if name=js "alg" then some { parsed with alg:=(parseAlg value).or parsed.alg }
  else if name=js "tag" then some { parsed with tag:=parseSfString value }
  else none

def JsNumber.isFinite : JsNumber → Bool
 | .finite _ => true
 | _ => false

def parseSignatureInput (header:JsString) : Option SignatureParams := do
 let label:=signatureLabel++js "="
 guard (label.isPrefixOf header)
 let (list,rest) ← splitParams (header.drop label.length)
 let covered ← ((list.splitOn 0x20).filter (·≠[])).mapM parseSfString
 let parsed ← (rest.splitOn 0x3B).foldlM parsePiece {}
 let created ← parsed.created
 let expires ← parsed.expires
 let nonce ← parsed.nonce
 let keyid ← parsed.keyid
 let alg ← parsed.alg
 guard (parsed.tag=some mutationProfileTag && JsNumber.isFinite created &&
  JsNumber.isFinite expires)
 pure ⟨created,expires,nonce,keyid,alg,covered⟩

def parseSignature (header:JsString) : Option (List UInt8) :=
 let label:=signatureLabel++js "="
 if label.isPrefixOf header then parseSfByteSequence (header.drop label.length) else none

section

inductive VerifyReason where
 | headers
 | digest
 | signature
 | skew
 | lifetime
 | nonce
 | components

variable {κ:Type} (services:RequestServices κ)

def unixSeconds (iso:JsString) : Option ℤ := (services.dateParse iso).map (·/1000)

def isNonceUnit : Bool :=
 (0x41 ≤ unit && unit ≤ 0x5A) || (0x61 ≤ unit && unit ≤ 0x7A) || (0x30 ≤ unit && unit ≤ 0x39) ||
  unit=0x5F || unit=0x2D

def isNonce (nonce:JsString) : Bool := nonce.length=43 && nonce.all isNonceUnit

structure VerifyMutationInput (κ:Type) where
 message : MutationMessage
 publicKey : κ
 nowSeconds : ℤ
 expectedKeyId : JsString

def present {α:Type} (reason:VerifyReason) (value:Option α) : Except VerifyReason α :=
 value.elim (.error reason) .ok

def demand (reason:VerifyReason) (condition:Bool) : Except VerifyReason Unit :=
 if condition then .ok () else .error reason

def finiteValue : JsNumber → Option ℚ
 | .finite value => some value
 | _ => none

/-- The clock against the times that are signed. The numbers are whole, so rounded differences
compare like exact ones. -/
def checkTimes (nowSeconds:ℤ) (created expires:ℚ) (issuedSeconds expiresSeconds:ℤ) :
    Except VerifyReason Unit := do
 demand .skew (|created - nowSeconds| ≤ maxCreatedSkewSeconds)
 demand .lifetime (expires - created ≤ maxLifetimeSeconds && created<expires)
 demand .lifetime (created=issuedSeconds && expires=expiresSeconds)

def verifyMutation (input:VerifyMutationInput κ) : Except VerifyReason SignatureParams := do
 let lookup:=headerLookup services input.message.headers
 let signatureInput ← present .headers (lookup (js "signature-input"))
 let signatureHeader ← present .headers (lookup (js "signature"))
 let params ← present .headers (parseSignatureInput signatureInput)
 let signature ← present .headers (parseSignature signatureHeader)
 demand .signature (params.keyid=input.expectedKeyId)
 demand .components (params.covered=coveredFor services input.message)
 demand .digest (lookup (js "content-digest") =
  some (contentDigestSha256 services input.message.body))
 demand .nonce (lookup (js "x-hec-nonce")=some params.nonce)
 demand .nonce (isNonce params.nonce)
 let issuedAt ← present .headers (lookup (js "x-hec-issued-at"))
 let expiresAt ← present .headers (lookup (js "x-hec-expires-at"))
 let issuedSeconds ← present .headers (unixSeconds services issuedAt)
 let expiresSeconds ← present .headers (unixSeconds services expiresAt)
 let created ← present .skew (finiteValue params.created)
 let expires ← present .lifetime (finiteValue params.expires)
 checkTimes input.nowSeconds created expires issuedSeconds expiresSeconds
 let base ← present .components (buildSignatureBase services input.message params)
 demand .signature (services.verify input.publicKey params.alg (utf8 base) signature)
 pure params

end

section

inductive HeaderValue where
 | one (value:JsString)
 | many (values:List JsString)

def HeaderValue.text : HeaderValue → Option JsString
 | .one value => some value
 | .many _ => none

/-- A request, what its route says, and the readings of the clock by the verifier and by the cache,
in milliseconds. -/
structure Arrival (κ:Type) where
 isRead : Bool
 bootstrap : Bool
 method : JsString
 principalId : Option JsString
 key : Option κ
 headers : List (JsString×HeaderValue)
 url : JsString
 rawBody : Option (List UInt8)
 clockMs : ℤ
 cacheMs : ℤ

variable {κ:Type} (services:RequestServices κ)

variable (arrival:Arrival κ) (principalId:JsString)

def Arrival.header (name:JsString) : Option JsString :=
 (arrival.headers.find? (·.1=name)).bind (·.2.text)

def assignHeader (headers:Headers) (name value:JsString) : Headers :=
 if headers.any (·.1=name) then
  headers.map fun header=>if header.1=name then (name,value) else header
 else headers++[(name,value)]

def Arrival.message : MutationMessage :=
 let host:=(arrival.header (js "host")).getD (js "localhost")
 { method:=arrival.method
   authority:=host
   targetUri:=js "https://"++host++arrival.url
   headers:=arrival.headers.foldl (fun headers header=>
    match header.2 with
    | .one value => assignHeader headers (services.toLowerCase header.1) value
    | .many _ => headers) []
   body:=arrival.rawBody.getD [] }

def Arrival.operationId : JsString :=
 (arrival.header (js "operation-id")).getD []

def Arrival.verified (key:κ) : Except VerifyReason SignatureParams :=
 verifyMutation services ⟨arrival.message services,key,arrival.clockMs/1000,principalId⟩

abbrev NonceCache := Register JsString JsString

def nonceKey (keyId nonce:JsString) : JsString :=
 principalId++[0]++keyId++[0]++nonce

def nonceVisit (params:SignatureParams) (expires:ℚ) : Visit JsString JsString where
 key := nonceKey principalId params.keyid params.nonce
 time := arrival.cacheMs
 entry := ⟨arrival.operationId,(expires*1000).floor⟩

inductive Handled where
 /-- Reads and bootstrap requests go on without a signature. -/
 | unsigned
 | accepted (params:SignatureParams) (answer:Answer)
 | unauthenticated

def verifyMutationOrThrow (cache:NonceCache) (arrival:Arrival κ) : Handled×NonceCache :=
 if arrival.isRead then (.unsigned,cache)
 else
  match arrival.principalId, arrival.key with
  | none, _ => (if arrival.bootstrap then .unsigned else .unauthenticated,cache)
  | some _, none => (.unauthenticated,cache)
  | some principalId, some key =>
    match arrival.verified services principalId key with
    | .error _ => (.unauthenticated,cache)
    | .ok params =>
      let (answer,cache):=reserve cache
       (nonceVisit arrival principalId params ((finiteValue params.expires).getD 0))
      (if answer=.conflict then .unauthenticated else .accepted params answer,cache)

def handleAll : NonceCache → List (Arrival κ) → List (Arrival κ×Handled)
 | _, [] => []
 | cache, arrival::arrivals =>
   (arrival,(verifyMutationOrThrow services cache arrival).1) ::
    handleAll (verifyMutationOrThrow services cache arrival).2 arrivals

end

end EpistemicCompiler.SignedRequests
