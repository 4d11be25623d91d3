import Cose.Error
import Cose.Value.Basic

/-!
# The algorithm registry

A registry has two indexes, of algorithms by name and by identifier, in the order of registration. A
name or an identifier that is taken is refused. An algorithm is looked up by its name, by its
identifier, or by an algorithm that is the same in every parameter.

## Main definitions

* `Registry`, `Registry.register`, `Registry.registerAll`: registries and registration
* `Registry.algorithms`: the registered algorithms
* `Registry.lookup`: the algorithm for an identifier
* `Registry.standard`, `Algorithm.lookup`: the supported algorithms
* `Algorithm.newHash`, `Algorithm.signatureSize`: what an algorithm signs with and how long its
  signatures are
-/

namespace Cose

/-- **A registry**: algorithms by name, and by identifier, in the order of registration. -/
structure Registry where
  byName : List (String × Algorithm)
  byValue : List (Int × Algorithm)
  deriving DecidableEq

/-- An error whose message has an integer in it, or the failure to write that integer. -/
def Error.writing (writable : Bool) (e : Error) : Error :=
  if writable then e else .fault .value

namespace Registry

/-- The registry without algorithms. -/
def empty : Registry := ⟨[], []⟩

/-- The registered algorithms, in the order of registration. -/
def algorithms (r : Registry) : List Algorithm :=
  r.byValue.map Prod.snd

/-- The algorithm registered under a name. -/
def findName? (r : Registry) (name : String) : Option Algorithm :=
  r.byName.lookup name

/-- The algorithm registered under an identifier. -/
def findValue? (r : Registry) (value : Int) : Option Algorithm :=
  r.byValue.lookup value

/-- Algorithms by a key. -/
def indexBy {κ : Type} (key : Algorithm → κ) (as : List Algorithm) : List (κ × Algorithm) :=
  as.map fun a => (key a, a)

/-- An index with an algorithm stored for a key: in the place of the key, or at the end. -/
def storeIn {κ : Type} [BEq κ] (key : κ) (a : Algorithm) :
    List (κ × Algorithm) → List (κ × Algorithm)
  | [] => [(key, a)]
  | (k, b) :: rest => if k == key then (k, a) :: rest else (k, b) :: storeIn key a rest

/-- A registry with one more algorithm; a name or identifier that is taken is refused. -/
def register (r : Registry) (a : Algorithm) : Except Error Registry :=
  if (r.findName? a.name).isSome || (r.findValue? a.value).isSome then
    .error (.writing (Text.isWritable a.value) (.argument (.alreadyRegistered a.name a.value)))
  else .ok ⟨storeIn a.name a r.byName, storeIn a.value a r.byValue⟩

/-- The registry after algorithms have been registered in order; a refusal leaves it as it was. -/
def registerAll (r : Registry) : List Algorithm → Registry
  | [] => r
  | a :: as =>
    match r.register a with
    | .ok r' => r'.registerAll as
    | .error _ => r.registerAll as

/-- Identifiers that are registered for COSE but not supported. -/
def unsupported : List (String × Int) :=
  [("RS256", -257), ("RS384", -258), ("RS512", -259), ("HMAC 256/64", 4), ("AES-MAC 128/64", 14),
    ("AES-MAC 256/64", 15), ("AES-MAC 128/128", 25), ("AES-MAC 256/128", 26), ("Reserved", 0)]

/-- Why an integer is no identifier of a registered algorithm. -/
def unknownValue (n : Int) : LookupFault :=
  if unsupported.any fun u => u.2 == n then .unsupportedValue n else .unknownValue n

/-- Why a text is no name of a registered algorithm. -/
def unknownName (s : String) : LookupFault :=
  if unsupported.any fun u => u.1 == s then .unsupportedName s else .unknownName s

/-- **The algorithm for an identifier**: a name, an integer, or the algorithm itself. -/
def lookup (r : Registry) : Value → Except Error Algorithm
  | .algorithm a =>
    if r.findValue? a.value = some a then .ok a
    else .error (.unknownAlgorithm (.unregistered a.name))
  | .bool b => .error (.unknownAlgorithm (.ambiguous b))
  | .int n =>
    match r.findValue? n with
    | some a => .ok a
    | none => .error (.writing (Text.isWritable n) (.unknownAlgorithm (unknownValue n)))
  | .text s =>
    match r.findName? s with
    | some a => .ok a
    | none => .error (.unknownAlgorithm (unknownName s))
  | v => .error (.unknownAlgorithm (.notAnIdentifier v.typeName))

/-- The supported algorithms. -/
def supported : List Algorithm :=
  [.es256, .es384, .es512, .edDSA, .ps256, .ps384, .ps512, .hmac256, .hmac384, .hmac512]

/-- The registry of the supported algorithms. -/
def standard : Registry :=
  ⟨indexBy Algorithm.name supported, indexBy Algorithm.value supported⟩

end Registry

namespace Algorithm

/-- The supported algorithm for an identifier. -/
def lookup (id : Value) : Except Error Algorithm :=
  Registry.standard.lookup id

/-- The hash function of an algorithm, if it has one. -/
def newHash (a : Algorithm) : Except Error Hash :=
  match a.hash with
  | some h => .ok h
  | none => .error (.unknownAlgorithm (.noHash a.name))

/-- The key size where it has to be known and positive. -/
def knownSize (a : Algorithm) : Except Error Nat :=
  match a.keySize with
  | some (n + 1) => .ok (n + 1)
  | _ => .error (.argument .sizeUnknown)

/-- The length of a signature or tag where the algorithm fixes it. -/
def signatureSize (a : Algorithm) : Except Error (Option Nat) :=
  match a.family with
  | .ecdsa => a.knownSize.map fun n => some (2 * n)
  | .hmac => .ok a.keySize
  | _ => .ok none

end Algorithm

end Cose
