import Cose.Message.Mac0
import Cose.Message.Sign
import Cose.Message.Sign1

/-!
# Objects that share parts

A bucket that is handed to a message stays one bucket: what is later done to it shows wherever it
is part of. The store keeps buckets, entries and messages in cells that refer to one another. To
work on an object it is read with all its parts, and written back; signing may give it a new
protected bucket, and all other changes reach the parts that it has.

## Main definitions

* `Cell`, `Store`: the cells, and the names given to some of them
* `Object`, `Store.read?`: an object with all its parts
* `Store.write`: writing an object back
* `Store.add`, `Store.addSharing`: new objects, with fresh parts or with given buckets
* `Store.follow?`: the parts of an object
-/

namespace Cose.Workspace

/-- The place of a cell. -/
abbrev Ref := Nat

/-- The places of the two buckets of a layer. -/
structure LayerRef where
  prot : Ref
  unprot : Ref

/-- **A cell.** -/
inductive Cell where
  | bucket (b : Bucket)
  | entry (layer : LayerRef) (signature : Value)
  | sign1 (layer : LayerRef) (payload signature : Value) (state : State)
  | mac0 (layer : LayerRef) (payload tag : Value) (state : State)
  | sign (layer : LayerRef) (payload : Value) (entries : List Ref) (state : State)

/-- **An object with all its parts.** -/
inductive Object where
  | bucket (b : Bucket)
  | entry (e : Entry)
  | sign1 (m : Sign1)
  | mac0 (m : Mac0)
  | sign (m : Sign)

/-- **A store**: cells in the order of their making, and names. The last name of a spelling
counts. -/
structure Store where
  cells : Array Cell := #[]
  names : List (String × Ref) := []

/-- A part of an object. -/
inductive Part where
  | prot
  | unprot
  | entry (index : Nat)

/-- **Headers that are given**: a value, or the object at a place. -/
inductive Given where
  | value (v : Value)
  | object (r : Ref)

/-- The parts that a path names. -/
def Part.ofNames? : List String → Option (List Part)
  | [] => some []
  | "protected" :: rest => (ofNames? rest).map (.prot :: ·)
  | "unprotected" :: rest => (ofNames? rest).map (.unprot :: ·)
  | "signatures" :: i :: rest => do return .entry (← i.toNat?) :: (← ofNames? rest)
  | _ => none

namespace Cell

/-- The layer of a cell that has one. -/
def layer? : Cell → Option LayerRef
  | .bucket _ => none
  | .entry l _ | .sign1 l .. | .mac0 l .. | .sign l .. => some l

/-- A cell with another layer. -/
def withLayer (layer : LayerRef) : Cell → Cell
  | .bucket b => .bucket b
  | .entry _ s => .entry layer s
  | .sign1 _ p s st => .sign1 layer p s st
  | .mac0 _ p t st => .mac0 layer p t st
  | .sign _ p es st => .sign layer p es st

/-- The place of a part. -/
def part? : Part → Cell → Option Ref
  | .prot, c => c.layer?.map LayerRef.prot
  | .unprot, c => c.layer?.map LayerRef.unprot
  | .entry index, .sign _ _ entries _ => entries[index]?
  | .entry _, _ => none

end Cell

namespace Store

/-! ## Names and parts -/

/-- The place that a name stands for. -/
def named? (s : Store) (name : String) : Option Ref :=
  s.names.lookup name

/-- The store with a name given to a place. -/
def bind (s : Store) (name : String) (r : Ref) : Store :=
  { s with names := (name, r) :: s.names }

/-- The place of a part of a part of an object. -/
def follow? (s : Store) (r : Ref) : List Part → Option Ref
  | [] => some r
  | part :: rest => do s.follow? (← (← s.cells[r]?).part? part) rest

/-! ## Reading -/

/-- The bucket at a place. -/
def bucketAt? (s : Store) (r : Ref) : Option Bucket :=
  match s.cells[r]? with
  | some (.bucket b) => some b
  | _ => none

/-- The layer at two places. -/
def layerAt? (s : Store) (l : LayerRef) : Option Layer := do
  return ⟨← s.bucketAt? l.prot, ← s.bucketAt? l.unprot⟩

/-- The entry at a place. -/
def entryAt? (s : Store) (r : Ref) : Option Entry := do
  match s.cells[r]? with
  | some (.entry l signature) => return { ← s.layerAt? l with signature }
  | _ => none

/-- **The object at a place** with all its parts. -/
def read? (s : Store) (r : Ref) : Option Object := do
  match s.cells[r]? with
  | none => none
  | some (.bucket b) => return .bucket b
  | some (.entry ..) => return .entry (← s.entryAt? r)
  | some (.sign1 l payload signature state) =>
    return .sign1 { ← s.layerAt? l with payload, signature, state }
  | some (.mac0 l payload tag state) =>
    return .mac0 { ← s.layerAt? l with payload, tag, state }
  | some (.sign l payload entries state) =>
    return .sign { ← s.layerAt? l with payload, entries := ← entries.mapM s.entryAt?, state }

/-! ## Making -/

/-- The store with one more cell, and its place. -/
def alloc (s : Store) (c : Cell) : Store × Ref :=
  ({ s with cells := s.cells.push c }, s.cells.size)

/-- The store with a bucket, new or at a given place. -/
def share (s : Store) (shared : Option Ref) (b : Bucket) : Store × Ref :=
  match shared with
  | some r => (s, r)
  | none => s.alloc (.bucket b)

/-- The store with a layer whose buckets are new or at given places. -/
def addLayer (s : Store) (prot unprot : Option Ref) (h : Layer) : Store × LayerRef :=
  let (s, p) := s.share prot h.prot
  let (s, u) := s.share unprot h.unprot
  (s, ⟨p, u⟩)

/-- The store with an entry whose buckets are new or at given places. -/
def addEntry (s : Store) (prot unprot : Option Ref) (e : Entry) : Store × Ref :=
  let (s, l) := s.addLayer prot unprot e.toLayer
  s.alloc (.entry l e.signature)

/-- The store with new entries. -/
def addEntries (s : Store) : List Entry → Store × List Ref
  | [] => (s, [])
  | e :: es =>
    let (s, r) := s.addEntry none none e
    let (s, rs) := s.addEntries es
    (s, r :: rs)

/-- **The store with a new object** whose buckets are new or at given places, and whose entries are
at given places. -/
def addSharing (s : Store) (prot unprot : Option Ref) (entries : List Ref) :
    Object → Store × Ref
  | .bucket b => s.alloc (.bucket b)
  | .entry e => s.addEntry prot unprot e
  | .sign1 m =>
    let (s, l) := s.addLayer prot unprot m.toLayer
    s.alloc (.sign1 l m.payload m.signature m.state)
  | .mac0 m =>
    let (s, l) := s.addLayer prot unprot m.toLayer
    s.alloc (.mac0 l m.payload m.tag m.state)
  | .sign m =>
    let (s, l) := s.addLayer prot unprot m.toLayer
    s.alloc (.sign l m.payload entries m.state)

/-- **The store with a new object** and fresh parts. -/
def add (s : Store) (o : Object) : Store × Ref :=
  match o with
  | .sign m =>
    let (s, rs) := s.addEntries m.entries
    s.addSharing none none rs (.sign m)
  | o => s.addSharing none none [] o

/-! ## Writing -/

/-- The store with another cell at a place. -/
def set (s : Store) (r : Ref) (c : Cell) : Store :=
  { s with cells := s.cells.setIfInBounds r c }

/-- Whether a protected bucket took the place of another: it names an algorithm that the other
does not. -/
def isReplaced (old new : Bucket) : Bool :=
  !old.has .alg && new.has .alg

/-- The store with the buckets of a layer written back. A protected bucket that took the place of
another gets a cell of its own. -/
def writeLayer (s : Store) (l : LayerRef) (h : Layer) : Store × LayerRef :=
  let s := s.set l.unprot (.bucket h.unprot)
  match s.bucketAt? l.prot with
  | some old =>
    if isReplaced old h.prot then
      let (s, p) := s.alloc (.bucket h.prot)
      (s, ⟨p, l.unprot⟩)
    else (s.set l.prot (.bucket h.prot), l)
  | none => (s, l)

/-- The store with an entry written back at its place. -/
def writeEntry (s : Store) (r : Ref) (e : Entry) : Store :=
  match s.cells[r]? with
  | some (.entry l _) =>
    let (s, l) := s.writeLayer l e.toLayer
    s.set r (.entry l e.signature)
  | _ => s

/-- The store with entries written back in order. -/
def writeEntries (s : Store) (entries : List (Ref × Entry)) : Store :=
  entries.foldl (fun s x => s.writeEntry x.1 x.2) s

/-- **The store with an object written back** at its place. -/
def write (s : Store) (r : Ref) (o : Object) : Store :=
  match s.cells[r]?, o with
  | some (.bucket _), .bucket b => s.set r (.bucket b)
  | some (.entry ..), .entry e => s.writeEntry r e
  | some (.sign1 l ..), .sign1 m =>
    let (s, l) := s.writeLayer l m.toLayer
    s.set r (.sign1 l m.payload m.signature m.state)
  | some (.mac0 l ..), .mac0 m =>
    let (s, l) := s.writeLayer l m.toLayer
    s.set r (.mac0 l m.payload m.tag m.state)
  | some (.sign l _ entries _), .sign m =>
    let (s, l) := s.writeLayer l m.toLayer
    let s := s.set r (.sign l m.payload entries m.state)
    s.writeEntries (entries.zip m.entries)
  | _, _ => s

/-- The store with another protected bucket in an object. -/
def setProtected (s : Store) (r bucket : Ref) : Store :=
  match s.cells[r]? with
  | some c =>
    match c.layer? with
    | some l => s.set r (c.withLayer { l with prot := bucket })
    | none => s
  | none => s

/-- The store with another unprotected bucket in an object. -/
def setUnprotected (s : Store) (r bucket : Ref) : Store :=
  match s.cells[r]? with
  | some c =>
    match c.layer? with
    | some l => s.set r (c.withLayer { l with unprot := bucket })
    | none => s
  | none => s

/-- What the store holds for headers that are given. -/
def source (s : Store) : Given → Source
  | .value v => .value v
  | .object r =>
    match s.bucketAt? r with
    | some b => .bucket b
    | none => .object

/-- The place of a given bucket that is taken as it is. -/
def shared? (s : Store) (isProtected : Bool) : Given → Option Ref
  | .value _ => none
  | .object r => (s.bucketAt? r).bind fun b => if b.isProtected = isProtected then some r else none

/-- **The store with an object made from given headers.** -/
def make (s : Store) (prot unprot : Given) (entries : List Ref)
    (build : Source → Source → Except Error Object) : Except Error (Store × Ref) :=
  (build (s.source prot) (s.source unprot)).map fun o =>
    s.addSharing (s.shared? true prot) (s.shared? false unprot) entries o

/-- The store with one more entry in a message that is not signed yet. -/
def attachEntry (s : Store) (r entry : Ref) : Except Error Store :=
  match s.cells[r]?, s.read? r, s.entryAt? entry with
  | some (.sign l payload entries state), some (.sign m), some e =>
    (m.add e).result.map fun _ => s.set r (.sign l payload (entries ++ [entry]) state)
  | _, _, _ => .error (.fault .attribute)

end Store

/-- What an object says that it is not. -/
def absentPart : Error := .fault .attribute

namespace Object

/-- The layer of an object that has one. -/
def layer? : Object → Option Layer
  | .bucket _ => none
  | .entry e => some e.toLayer
  | .sign1 m => some m.toLayer
  | .mac0 m => some m.toLayer
  | .sign m => some m.toLayer

/-- The text of an object in messages. -/
def literal : Object → Except Error String
  | .bucket b => b.literal
  | .entry e => e.literal
  | .sign1 m => m.literal
  | .mac0 m => m.literal
  | .sign m => m.literal

/-- The encoded form of an object. -/
def encode : Object → Except Error Bytes
  | .bucket b => b.encode
  | .sign1 m => m.encode
  | .mac0 m => m.encode
  | .sign m => m.encode
  | .entry _ => .error absentPart

/-- An object from its encoded form, for the kinds of message; for no kind an entry. -/
def decode [Cbor.Reader] (data : Value) : Option Shape → Except Error Object
  | some .sign1 => (Sign1.decode data).map .sign1
  | some .mac0 => (Mac0.decode data).map .mac0
  | some .sign => (Sign.decode data).map .sign
  | none => (Entry.decode data).map .entry

/-- An object read back from its encoded form. -/
def reload [Cbor.Reader] : Object → Except Error Object
  | .sign1 m => do return .sign1 (← Sign1.decode (.bytes (← m.encode)))
  | .mac0 m => do return .mac0 (← Mac0.decode (.bytes (← m.encode)))
  | .sign m => do return .sign (← Sign.decode (.bytes (← m.encode)))
  | _ => .error absentPart

/-- An object with a field set: the payload, the signature or the tag. -/
def setField (field : String) (v : Value) : Object → Object
  | .entry e => if field = "signature" then .entry { e with signature := v } else .entry e
  | .sign1 m =>
    if field = "payload" then .sign1 { m with payload := v }
    else if field = "signature" then .sign1 { m with signature := v }
    else .sign1 m
  | .mac0 m =>
    if field = "payload" then .mac0 { m with payload := v }
    else if field = "tag" then .mac0 { m with tag := v }
    else .mac0 m
  | .sign m => if field = "payload" then .sign { m with payload := v } else .sign m
  | .bucket b => .bucket b

end Object

end Cose.Workspace
