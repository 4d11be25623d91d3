import Cose.Cbor.Decoder

/-!
# Maps as they are written

What is read of a map has one entry for equal keys, and what is read of a set has one of equal
elements. The reader of this module keeps all of them, in the order in which they are written, so
that one can tell what the bytes of a map hold. Merging equal keys and elements afterwards gives
what is read.

## Main definitions

* `Value.merged`: a value with equal keys of maps and equal elements of sets merged
* `writtenItem`, `written?`: the first item of a byte string as it is written

## Main results

* `decodeItem_eq_merged`, `decode?_eq_merged`: what is read is what is written, merged
-/

namespace Cose

namespace Value

mutual

/-- **A value with equal keys of maps and equal elements of sets merged**, inside out. -/
def merged : Value → Value
  | .list xs => .list (mergedItems xs)
  | .tuple xs => .tuple (mergedItems xs)
  | .map es => .map (ofEntries (mergedEntries es))
  | .frozenMap es => .frozenMap (ofEntries (mergedEntries es))
  | .set xs => .set (ofItems (mergedItems xs))
  | .frozenSet xs => .frozenSet (ofItems (mergedItems xs))
  | .tag n v => .tag n (merged v)
  | v => v

/-- The elements of a container, each merged. -/
def mergedItems : List Value → List Value
  | [] => []
  | x :: xs => merged x :: mergedItems xs

/-- The entries of a map, each key and value merged. -/
def mergedEntries : List (Value × Value) → List (Value × Value)
  | [] => []
  | (k, v) :: es => (merged k, merged v) :: mergedEntries es

end

theorem mergedItems_eq_map (xs : List Value) : mergedItems xs = xs.map merged := by
  induction xs with
  | nil => rfl
  | cons x xs ih => rw [mergedItems, ih, List.map_cons]

theorem mergedEntries_eq_map (es : List (Value × Value)) :
    mergedEntries es = es.map (Prod.map merged merged) := by
  induction es with
  | nil => rfl
  | cons e es ih => rw [mergedEntries, ih, List.map_cons, Prod.map]

theorem merged_eq_stop_iff {v : Value} : v.merged = .stop ↔ v = .stop := by
  cases v <;> simp [merged]

end Value

namespace Cbor

/-! ## The reader -/

/-- What a tag with its content means, with all elements of a set. -/
def writtenTag? (frozen : Bool) (number : Nat) (content : Value) : Option Value :=
  if number = setTag then
    match content with
    | .tuple xs | .list xs => some (if frozen then .frozenSet xs else .set xs)
    | _ => none
  else interpretTag? frozen number content

/-- The first item of a byte string as it is written, and what follows it: as `decodeItem`, with
all entries of maps and all elements of sets. -/
def writtenItem : (depth : Nat) → (frozen : Bool) → Bytes → Option (Value × Bytes)
  | 0, _, _ => none
  | _ + 1, _, [] => none
  | depth + 1, frozen, first :: rest =>
    let info := infoOf first
    match Major.ofByte first with
    | .array =>
      (items? (writtenItem depth frozen) info rest).map fun (xs, rest) =>
        (if frozen then .tuple xs else .list xs, rest)
    | .map =>
      (entries? (writtenItem depth true) (writtenItem depth frozen) info rest).map
        fun (es, rest) => (if frozen then .frozenMap es else .map es, rest)
    | .tag => do
      let (number, rest) ← argument? info rest
      let (content, rest) ← writtenItem depth (frozen || number == setTag) rest
      let v ← writtenTag? frozen number content
      return (v, rest)
    | _ => decodeItem (depth + 1) frozen (first :: rest)

/-- The first item of a byte string as it is written. -/
def written? (b : Bytes) : Option Value :=
  (writtenItem maxDepth false b).map Prod.fst

/-! ## Items in a row -/

section Row

variable {α β : Type}

/-- A reader followed by a function. -/
def readMap (f : α → β) (read : Bytes → Option (α × Bytes)) (b : Bytes) : Option (β × Bytes) :=
  (read b).map (Prod.map f id)

theorem repeat?_readMap (f : α → β) (read : Bytes → Option (α × Bytes)) (n : Nat) (b : Bytes) :
    repeat? (readMap f read) n b = readMap (List.map f) (repeat? read n) b := by
  induction n generalizing b with
  | zero => rfl
  | succ n ih =>
    simp only [repeat?, readMap]
    cases read b with
    | none => rfl
    | some first =>
      obtain ⟨x, rest⟩ := first
      simp only [Option.map_some, Prod.map, id, Option.bind_eq_bind, Option.bind_some, ih, readMap]
      cases repeat? read n rest <;> rfl

theorem untilStop?_of_stop {read : Bytes → Option (Value × Bytes)} {n : Nat} {b rest : Bytes}
    (first : read b = some (.stop, rest)) : untilStop? read (n + 1) b = some ([], rest) := by
  rw [untilStop?, first]
  rfl

theorem untilStop?_of_ne {read : Bytes → Option (Value × Bytes)} {n : Nat} {b rest : Bytes}
    {x : Value} (first : read b = some (x, rest)) (goes : x ≠ .stop) :
    untilStop? read (n + 1) b = readMap (x :: ·) (untilStop? read n) rest := by
  simp only [untilStop?, first, Option.bind_eq_bind, Option.bind_some, readMap]
  cases untilStop? read n rest <;> rfl

theorem entriesUntilStop?_of_stop {readKey read : Bytes → Option (Value × Bytes)} {n : Nat}
    {b rest : Bytes} (key : readKey b = some (.stop, rest)) :
    entriesUntilStop? readKey read (n + 1) b = some ([], rest) := by
  rw [entriesUntilStop?, key]
  rfl

theorem entriesUntilStop?_of_ne {readKey read : Bytes → Option (Value × Bytes)} {n : Nat}
    {b behind : Bytes} {k : Value} (key : readKey b = some (k, behind)) (goes : k ≠ .stop) :
    entriesUntilStop? readKey read (n + 1) b = (read behind).bind fun (v, rest) =>
      readMap ((k, v) :: ·) (entriesUntilStop? readKey read n) rest := by
  simp only [entriesUntilStop?, key, Option.bind_eq_bind, Option.bind_some, readMap]
  congr 1
  funext ⟨v, rest⟩
  cases entriesUntilStop? readKey read n rest <;> rfl

variable {f g : Value → Value}

theorem untilStop?_readMap (stops : ∀ v, f v = .stop ↔ v = .stop)
    (read : Bytes → Option (Value × Bytes)) (n : Nat) (b : Bytes) :
    untilStop? (readMap f read) n b = readMap (List.map f) (untilStop? read n) b := by
  induction n generalizing b with
  | zero => rfl
  | succ n ih =>
    rw [readMap]
    rcases first : read b with _ | ⟨x, rest⟩
    · simp only [untilStop?, readMap, first, Option.map_none, Option.bind_eq_bind, Option.bind_none]
    have first' : readMap f read b = some (f x, rest) := by
      rw [readMap, first]
      rfl
    by_cases stop : x = .stop
    · rw [stop] at first first'
      rw [(stops .stop).mpr rfl] at first'
      rw [untilStop?_of_stop first', untilStop?_of_stop first]
      rfl
    · rw [untilStop?_of_ne first' fun h => stop ((stops x).mp h), readMap, ih, readMap,
        untilStop?_of_ne first stop, readMap]
      cases untilStop? read n rest <;> rfl

theorem entriesUntilStop?_readMap (stops : ∀ v, f v = .stop ↔ v = .stop)
    (readKey read : Bytes → Option (Value × Bytes)) (n : Nat) (b : Bytes) :
    entriesUntilStop? (readMap f readKey) (readMap g read) n b =
      readMap (List.map (Prod.map f g)) (entriesUntilStop? readKey read n) b := by
  induction n generalizing b with
  | zero => rfl
  | succ n ih =>
    rw [readMap]
    rcases key : readKey b with _ | ⟨k, behind⟩
    · simp only [entriesUntilStop?, readMap, key, Option.map_none, Option.bind_eq_bind,
        Option.bind_none]
    have key' : readMap f readKey b = some (f k, behind) := by
      rw [readMap, key]
      rfl
    by_cases stop : k = .stop
    · rw [stop] at key key'
      rw [(stops .stop).mpr rfl] at key'
      rw [entriesUntilStop?_of_stop key', entriesUntilStop?_of_stop key]
      rfl
    · rw [entriesUntilStop?_of_ne key' fun h => stop ((stops k).mp h),
        entriesUntilStop?_of_ne key stop, readMap]
      rcases read behind with _ | ⟨v, rest⟩
      · rfl
      simp only [Option.map_some, Prod.map, id, Option.bind_some, readMap, ih]
      cases entriesUntilStop? readKey read n rest <;> rfl

theorem keyAndValue?_readMap (readKey read : Bytes → Option (Value × Bytes)) :
    keyAndValue? (readMap f readKey) (readMap g read) =
      readMap (Prod.map f g) (keyAndValue? readKey read) := by
  funext b
  simp only [keyAndValue?, readMap]
  rcases readKey b with _ | ⟨k, behind⟩
  · rfl
  simp only [Option.map_some, Prod.map, id, Option.bind_eq_bind, Option.bind_some]
  cases read behind <;> rfl

theorem items?_readMap (stops : ∀ v, f v = .stop ↔ v = .stop)
    (read : Bytes → Option (Value × Bytes)) (info : Nat) (b : Bytes) :
    items? (readMap f read) info b = readMap (List.map f) (items? read info) b := by
  rw [items?, readMap, items?]
  split
  · exact untilStop?_readMap stops read _ b
  · rcases argument? info b with _ | ⟨count, rest⟩
    · rfl
    · exact repeat?_readMap f read count rest

theorem entries?_readMap (stops : ∀ v, f v = .stop ↔ v = .stop)
    (readKey read : Bytes → Option (Value × Bytes)) (info : Nat) (b : Bytes) :
    entries? (readMap f readKey) (readMap g read) info b =
      readMap (List.map (Prod.map f g)) (entries? readKey read info) b := by
  rw [entries?, readMap, entries?]
  split
  · exact entriesUntilStop?_readMap stops readKey read _ b
  · rcases argument? info b with _ | ⟨count, rest⟩
    · rfl
    · rw [keyAndValue?_readMap]
      exact repeat?_readMap _ _ count rest

end Row

/-! ## Items -/

theorem special?_merged (info : Nat) (b : Bytes) :
    special? info b = readMap Value.merged (special? info) b := by
  have float (f : Float.Format) (width : Nat) :
      float? f width b = readMap Value.merged (float? f width) b := by
    simp only [readMap, float?, Option.bind_eq_bind]
    rcases takeNat? width b with _ | ⟨bits, rest⟩
    · rfl
    simp only [Option.bind_some]
    cases Float.Format.double.encode? (f.decode bits) <;> rfl
  rw [readMap]
  unfold special?
  split
  case h_5 => cases takeNat? 1 b <;> rfl
  case h_6 => exact float .half 2
  case h_7 => exact float .single 4
  case h_8 => exact float .double 8
  case h_10 => split <;> rfl
  all_goals rfl

theorem isPattern_merged (content : Value) : isPattern content.merged = isPattern content := by
  cases content <;> rfl

theorem interpretTag?_merged (frozen : Bool) (number : Nat) (content : Value) :
    interpretTag? frozen number content.merged =
      (writtenTag? frozen number content).map Value.merged := by
  unfold writtenTag?
  by_cases isSet : number = setTag
  · subst isSet
    cases content <;> cases frozen <;> rfl
  rw [if_neg isSet]
  unfold interpretTag?
  by_cases isPositive : number = positiveTag
  · simp only [if_pos isPositive]
    cases content <;> rfl
  by_cases isNegative : number = negativeTag
  · simp only [if_neg isPositive, if_pos isNegative]
    cases content <;> rfl
  simp only [if_neg isPositive, if_neg isNegative, if_neg isSet, isPattern_merged]
  split
  · rfl
  split <;> rfl

/-- **What is read is what is written, merged.** -/
theorem decodeItem_eq_merged (depth : Nat) (frozen : Bool) :
    decodeItem depth frozen = readMap Value.merged (writtenItem depth frozen) := by
  induction depth generalizing frozen with
  | zero => rfl
  | succ depth ih =>
    funext b
    rcases b with _ | ⟨first, rest⟩
    · rfl
    rw [decodeItem, readMap, writtenItem]
    cases major : Major.ofByte first
    case array =>
      simp only [ih, items?_readMap fun v => Value.merged_eq_stop_iff, readMap]
      rcases items? (writtenItem depth frozen) (infoOf first) rest with _ | ⟨xs, rest⟩
      · rfl
      cases frozen <;> simp [Value.merged, Value.mergedItems_eq_map]
    case map =>
      simp only [ih, entries?_readMap fun v => Value.merged_eq_stop_iff, readMap]
      rcases entries? (writtenItem depth true) (writtenItem depth frozen) (infoOf first) rest with
        _ | ⟨es, rest⟩
      · rfl
      cases frozen <;> simp [Value.merged, Value.mergedEntries_eq_map]
    case tag =>
      rcases argument? (infoOf first) rest with _ | ⟨number, rest⟩
      · rfl
      simp only [Option.bind_eq_bind, Option.bind_some, ih, readMap]
      rcases writtenItem depth (frozen || number == setTag) rest with _ | ⟨content, rest⟩
      · rfl
      simp only [Option.map_some, Option.bind_some, Prod.map, interpretTag?_merged]
      cases writtenTag? frozen number content <;> rfl
    case special =>
      simp only [decodeItem, major]
      exact special?_merged _ _
    case text =>
      simp only [decodeItem, major, Option.bind_eq_bind]
      rcases string? .text isUtf8 (infoOf first) rest with _ | ⟨b, rest⟩
      · rfl
      simp only [Option.bind_some]
      cases Bytes.toText? b <;> rfl
    case bytes =>
      simp only [decodeItem, major]
      cases string? .bytes (fun _ => true) (infoOf first) rest <;> rfl
    all_goals
      simp only [decodeItem, major]
      cases argument? (infoOf first) rest <;> rfl

theorem decode?_eq_merged (b : Bytes) : decode? b = (written? b).map Value.merged := by
  rw [decode?, decodeItem_eq_merged, written?, readMap, Option.map_map, Option.map_map]
  rfl

/-- A map that is read was written as a map. -/
theorem written?_of_decode? {b : Bytes} {es : List (Value × Value)}
    (h : decode? b = some (.map es)) :
    ∃ pairs, written? b = some (.map pairs) ∧ es = Value.ofEntries (Value.mergedEntries pairs) := by
  rw [decode?_eq_merged, Option.map_eq_some_iff] at h
  obtain ⟨v, written, merged⟩ := h
  cases v with
  | map pairs =>
    cases merged
    exact ⟨pairs, written, rfl⟩
  | _ => cases merged

end Cbor

end Cose
