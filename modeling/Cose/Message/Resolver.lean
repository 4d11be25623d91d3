import Cose.Message.Entry
import Cose.Value.Equality

/-!
# Finding the key of an entry

The keys for the entries of a message are supplied by key identifier, in the order of the entries,
or by a function that finds the key of an entry.

## Main definitions

* `Keys`: the ways of supplying keys
* `Resolver`, `Keys.resolver`: the agent of each entry
-/

namespace Cose

/-- A resolver finds the agent of an entry, given its place. -/
abbrev Resolver := Nat → Entry → Except Error Agent

/-- **The ways of supplying keys.** A function may know no key for an entry. What is none of these
is given by the name of its type. -/
inductive Keys where
  | byKid (keys : List (Value × Agent))
  | inOrder (keys : List Agent)
  | byFunction (find : Nat → Entry → Except Error (Option Agent))
  | other (type : String)

/-- The agent stored for a key identifier. -/
def findAgent? (kid : Value) : List (Value × Agent) → Option Agent
  | [] => none
  | (k, a) :: rest => if Value.same kid k then some a else findAgent? kid rest

namespace Keys

/-- Finds the agent of an entry by its key identifier. -/
def resolveByKid (keys : List (Value × Agent)) : Resolver := fun index entry =>
  let unresolved : Except Error Agent := do
    throw (.noSignerFound (.keyId index (← entry.kid.literal?)))
  match entry.kid with
  | .null => unresolved
  | kid =>
    if !kid.isHashable then .error (.fault .type)
    else match findAgent? kid keys with
      | some agent => .ok agent
      | none => unresolved

/-- Finds the agent of an entry by its place. -/
def resolveInOrder (keys : List Agent) : Resolver := fun index _ =>
  match keys[index]? with
  | some agent => .ok agent
  | none => .error (.fault .missingKey)

/-- Finds the agent of an entry through a function. -/
def resolveByFunction (find : Nat → Entry → Except Error (Option Agent)) : Resolver :=
  fun index entry => do
    match ← find index entry with
    | some agent => return agent
    | none => throw (.noSignerFound (.absent index))

/-- **The resolver for a message** with the given number of entries. Keys in order have to be as
many. -/
def resolver (keys : Keys) (entries : Nat) : Except Error Resolver :=
  match keys with
  | .byKid keys => .ok (resolveByKid keys)
  | .inOrder keys =>
    if keys.length = entries then .ok (resolveInOrder keys)
    else .error (.noSignerFound (.count keys.length entries))
  | .byFunction find => .ok (resolveByFunction find)
  | .other type => .error (.argument (.keysType type))

end Keys

end Cose
