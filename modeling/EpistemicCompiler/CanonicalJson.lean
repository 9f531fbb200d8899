import Mathlib.Data.Nat.Digits.Defs
import EpistemicCompiler.JsValues

set_option autoImplicit false

/-!
# Canonical JSON text

`canonicalize` writes a value with sorted keys and refuses what has no canonical text;
`parseCanonicalJsonText` is the strict reader for such texts, which hands on what is left of a text.
-/
namespace EpistemicCompiler.CanonicalJson
open JsValues

inductive NotJson where
 | undefined
 | bigint
 | function
 | symbol

/-- A value; the fields of an object are its own enumerable properties in the order of
`Object.keys`. -/
inductive JsonValue where
 | null
 | bool (value:Bool)
 | number (value:JsNumber)
 | string (value:JsString)
 | array (items:List JsonValue)
 | object (fields:List (JsString×JsonValue))
 | other (kind:NotJson)

inductive CanonicalizationError where
 | message (text:String)
 | duplicateKey (key:JsString)
 /-- `JSON.parse` throws its own error for a malformed string literal. -/
 | syntaxError
 /-- The recursion is cut off; it never is, with as much fuel as there is text. -/
 | fuel

structure CanonicalizeOptions where
 allowUnsafeIntegers : Bool

variable (shortest:ℚ → JsString) (unit:UInt16) (text:JsString)

def contractOptions : CanonicalizeOptions := ⟨false⟩

def rejectUnpairedSurrogates (value:JsString) : Except CanonicalizationError Unit :=
 if unpairedSurrogate value then .error (.message "unpaired surrogate in string") else .ok ()

def hexDigit (n:ℕ) : UInt16 := if n<10 then UInt16.ofNat (0x30+n) else UInt16.ofNat (0x57+n)

/-- The text of one unit inside a string literal that has no unpaired surrogates. -/
def escapeUnit : JsString :=
 if unit=0x08 then js "\\b"
 else if unit=0x09 then js "\\t"
 else if unit=0x0A then js "\\n"
 else if unit=0x0C then js "\\f"
 else if unit=0x0D then js "\\r"
 else if unit=0x22 then js "\\\""
 else if unit=0x5C then js "\\\\"
 else if unit<0x20 then
  js "\\u00"++[hexDigit (unit.toNat/16),hexDigit (unit.toNat % 16)]
 else [unit]

def quote (value:JsString) : JsString := [0x22]++value.flatMap escapeUnit++[0x22]

def decimal (n:ℕ) : JsString :=
 if n=0 then [0x30] else (Nat.digits 10 n).reverse.map fun d=>UInt16.ofNat (0x30+d)

/-- `JSON.stringify` of a number. Integers that are safe have their decimal digits; `shortest` is
the shortest text that reads back as the same double. -/
def numberText (value:ℚ) : JsString :=
 if isSafeInteger (.finite value) then
  (if value<0 then [0x2D] else [])++decimal value.num.natAbs
 else shortest value

def serializeNumber (options:CanonicalizeOptions) :
    JsNumber → Except CanonicalizationError JsString
 | .finite value =>
   if !options.allowUnsafeIntegers && decide (value.den=1) && !isSafeInteger (.finite value) then
    .error (.message "unsafe integer is not permitted")
   else .ok (numberText shortest value)
 | _ => .error (.message "NaN and Infinity are not permitted")

def unsupported : NotJson → CanonicalizationError
 | .undefined => .message "undefined is not permitted"
 | .bigint => .message "unsupported JSON type bigint"
 | .function => .message "unsupported JSON type function"
 | .symbol => .message "unsupported JSON type symbol"

def fieldText (field:JsString×Except CanonicalizationError JsString) :
    Except CanonicalizationError JsString := do
 rejectUnpairedSurrogates field.1
 let text ← field.2
 pure (quote field.1++[0x3A]++text)

def fieldLe {α:Type} (left right:JsString×α) : Bool := unitsLe left.1 right.1

mutual

/-- The fields are written in the order of their keys, so the first failure in that order counts. -/
def walk (shortest:ℚ → JsString) (options:CanonicalizeOptions) :
    JsonValue → Except CanonicalizationError JsString
 | .null => .ok (js "null")
 | .bool value => .ok (if value then js "true" else js "false")
 | .number value => serializeNumber shortest options value
 | .string value => do
   rejectUnpairedSurrogates value
   pure (quote value)
 | .array items => do
   let texts ← walkItems shortest options items
   pure ([0x5B]++[0x2C].intercalate texts++[0x5D])
 | .object fields => do
   let parts ← ((walkFields shortest options fields).mergeSort fieldLe).mapM fieldText
   pure ([0x7B]++[0x2C].intercalate parts++[0x7D])
 | .other kind => .error (unsupported kind)

def walkItems (shortest:ℚ → JsString) (options:CanonicalizeOptions) :
    List JsonValue → Except CanonicalizationError (List JsString)
 | [] => .ok []
 | item::items => do
   let text ← walk shortest options item
   let texts ← walkItems shortest options items
   pure (text::texts)

def walkFields (shortest:ℚ → JsString) (options:CanonicalizeOptions) :
    List (JsString×JsonValue) → List (JsString×Except CanonicalizationError JsString)
 | [] => []
 | field::fields =>
   (field.1,walk shortest options field.2)::walkFields shortest options fields

end

def canonicalize : JsonValue → Except CanonicalizationError JsString :=
 walk shortest contractOptions

def isSpace : Bool := unit=0x20 || unit=0x0A || unit=0x0D || unit=0x09

def skipWhitespace : JsString := text.dropWhile isSpace

def scanString : JsString → Except CanonicalizationError (JsString×JsString)
 | [] => .error (.message "unterminated string")
 | unit::rest =>
   if unit=0x5C then
    match rest with
    | [] => .error (.message "unterminated escape")
    | next::rest => do
      let (raw,after) ← scanString rest
      pure (unit::next::raw,after)
   else if unit=0x22 then .ok ([],rest)
   else do
    let (raw,after) ← scanString rest
    pure (unit::raw,after)

def hexValue : Option ℕ :=
 if 0x30 ≤ unit && unit ≤ 0x39 then some (unit.toNat - 0x30)
 else if 0x61 ≤ unit && unit ≤ 0x66 then some (unit.toNat - 0x57)
 else if 0x41 ≤ unit && unit ≤ 0x46 then some (unit.toNat - 0x37)
 else none

def simpleEscape : Option UInt16 :=
 if unit=0x22 || unit=0x5C || unit=0x2F then some unit
 else if unit=0x62 then some 0x08
 else if unit=0x66 then some 0x0C
 else if unit=0x6E then some 0x0A
 else if unit=0x72 then some 0x0D
 else if unit=0x74 then some 0x09
 else none

def hexUnit (a b c d:UInt16) : Option UInt16 := do
 let value:=(← hexValue a)*4096+(← hexValue b)*256+(← hexValue c)*16+(← hexValue d)
 pure (UInt16.ofNat value)

/-- `JSON.parse` of a string literal, given what stands between its quotes. -/
def unescape : JsString → Option JsString
 | [] => some []
 | unit::rest =>
   if unit=0x5C then
    match rest with
    | [] => none
    | escaped::rest =>
      if escaped=0x75 then
       match rest with
       | a::b::c::d::rest => (hexUnit a b c d).bind fun u=>(unescape rest).map (u::·)
       | _ => none
      else (simpleEscape escaped).bind fun u=>(unescape rest).map (u::·)
   else if unit=0x22 || unit<0x20 then none
   else (unescape rest).map (unit::·)

def parseJsonString : JsString → Except CanonicalizationError (JsString×JsString)
 | [] => .error (.message "expected string")
 | head::text =>
   if head≠0x22 then .error (.message "expected string")
   else do
    let (raw,after) ← scanString text
    match unescape raw with
    | none => .error .syntaxError
    | some value => do
      rejectUnpairedSurrogates value
      pure (value,after)

def isDigit : Bool := 0x30 ≤ unit && unit ≤ 0x39

structure NumberToken where
 negative : Bool
 integer : JsString
 fraction : JsString
 exponentNegative : Bool
 exponent : JsString

def matchMinus : Bool×JsString :=
 match text with
 | [] => (false,[])
 | head::rest => if head=0x2D then (true,rest) else (false,text)

def matchInteger : JsString → Option (JsString×JsString)
 | [] => none
 | head::rest =>
   if head=0x30 then some ([head],rest)
   else if isDigit head then some (head::rest.takeWhile isDigit,rest.dropWhile isDigit)
   else none

def matchFraction : JsString×JsString :=
 match text with
 | [] => ([],[])
 | head::rest =>
   if head=0x2E && (rest.takeWhile isDigit).length≠0 then
    (rest.takeWhile isDigit,rest.dropWhile isDigit)
   else ([],text)

def matchSign : Bool×JsString :=
 match text with
 | [] => (false,[])
 | head::rest =>
   if head=0x2B then (false,rest) else if head=0x2D then (true,rest) else (false,text)

def matchExponent : Bool×JsString×JsString :=
 match text with
 | [] => (false,[],[])
 | head::rest =>
   let signed:=matchSign rest
   if (head=0x65 || head=0x45) && (signed.2.takeWhile isDigit).length≠0 then
    (signed.1,signed.2.takeWhile isDigit,signed.2.dropWhile isDigit)
   else (false,[],text)

def matchNumber : Option (NumberToken×JsString) := do
 let (negative,unsigned):=matchMinus text
 let (integer,afterInteger) ← matchInteger unsigned
 let (fraction,afterFraction):=matchFraction afterInteger
 let (exponentNegative,exponent,rest):=matchExponent afterFraction
 pure (⟨negative,integer,fraction,exponentNegative,exponent⟩,rest)

def digitsValue (digits:JsString) : ℕ :=
 digits.foldl (fun value unit=>value*10+(unit.toNat - 0x30)) 0

def NumberToken.value (token:NumberToken) : ℚ :=
 let exponent : ℤ:=digitsValue token.exponent
 (if token.negative then -1 else 1)*digitsValue (token.integer++token.fraction) *
  10 ^ ((if token.exponentNegative then -exponent else exponent) - token.fraction.length)

abbrev Fields := List (JsString×JsonValue)

/-- `object[key] = value` for a key that has not been assigned yet. The key `__proto__` reaches the
setter that every object literal inherits, which makes no property. -/
def assignField (fields:Fields) (key:JsString) (value:JsonValue) : Fields :=
 if key=js "__proto__" then fields else fields++[(key,value)]

def parseScalar : Except CanonicalizationError (JsonValue×JsString) :=
 if (js "true").isPrefixOf text then .ok (.bool true,text.drop 4)
 else if (js "false").isPrefixOf text then .ok (.bool false,text.drop 5)
 else if (js "null").isPrefixOf text then .ok (.null,text.drop 4)
 else
  match matchNumber text with
  | none => .error (.message "invalid JSON token")
  | some (token,rest) =>
    match toDouble token.value with
    | .finite value => .ok (.number (.finite value),rest)
    | _ => .error (.message "non-finite JSON number")

mutual

def parseJsonValue (assign:Fields → JsString → JsonValue → Fields) :
    ℕ → JsString → Except CanonicalizationError (JsonValue×JsString)
 | 0, _ => .error .fuel
 | fuel+1, text =>
   match skipWhitespace text with
   | [] => .error (.message "unexpected end of JSON")
   | head::rest =>
     if head=0x7B then
      match skipWhitespace rest with
      | [] => .error (.message "unterminated object")
      | next::after =>
        if next=0x7D then .ok (.object [],after)
        else parseMembers assign fuel [] [] (next::after)
     else if head=0x5B then
      match skipWhitespace rest with
      | [] => .error (.message "unterminated array")
      | next::after =>
        if next=0x5D then .ok (.array [],after)
        else parseItems assign fuel [] (next::after)
     else if head=0x22 then do
      let (value,after) ← parseJsonString (head::rest)
      pure (.string value,after)
     else parseScalar (head::rest)

def parseMembers (assign:Fields → JsString → JsonValue → Fields) :
    ℕ → List JsString → Fields → JsString → Except CanonicalizationError (JsonValue×JsString)
 | 0, _, _, _ => .error .fuel
 | fuel+1, seenKeys, fields, text =>
   if text=[] then .error (.message "unterminated object")
   else do
    let (key,afterKey) ← parseJsonString (skipWhitespace text)
    if key∈seenKeys then throw (.duplicateKey key)
    match skipWhitespace afterKey with
    | [] => .error (.message "expected colon")
    | colon::rest =>
      if colon≠0x3A then .error (.message "expected colon")
      else do
       let (value,afterValue) ← parseJsonValue assign fuel rest
       match skipWhitespace afterValue with
       | [] => .error (.message "expected comma or closing brace")
       | next::after =>
         if next=0x2C then
          parseMembers assign fuel (seenKeys++[key]) (assign fields key value) after
         else if next=0x7D then .ok (.object (assign fields key value),after)
         else .error (.message "expected comma or closing brace")

def parseItems (assign:Fields → JsString → JsonValue → Fields) :
    ℕ → List JsonValue → JsString → Except CanonicalizationError (JsonValue×JsString)
 | 0, _, _ => .error .fuel
 | fuel+1, items, text =>
   if text=[] then .error (.message "unterminated array")
   else do
    let (item,afterItem) ← parseJsonValue assign fuel text
    match skipWhitespace afterItem with
    | [] => .error (.message "expected comma or closing bracket")
    | next::after =>
      if next=0x2C then parseItems assign fuel (items++[item]) after
      else if next=0x5D then .ok (.array (items++[item]),after)
      else .error (.message "expected comma or closing bracket")

end

def parseText (assign:Fields → JsString → JsonValue → Fields) (text:JsString) :
    Except CanonicalizationError JsonValue := do
 match text with
 | [] => throw (.message "empty JSON")
 | head::_ => if head=0xFEFF then throw (.message "BOM is not permitted")
 let (value,rest) ← parseJsonValue assign (text.length+1) text
 if skipWhitespace rest≠[] then throw (.message "trailing bytes after JSON value")
 pure value

def parseCanonicalJsonText : Except CanonicalizationError JsonValue :=
 parseText assignField text

end EpistemicCompiler.CanonicalJson
