import Cose.Proofs.Header.Rules
import Cose.Proofs.Message.Completeness
import Cose.Proofs.Message.History

/-!
# Headers behind the gates

Signing, tagging and encoding look at the headers of a message before they give anything out, those
of its entries included. So whatever they let through obeys the rules for headers, both as it was
given and as it is left, with the algorithms that signing has put in.

## Main definitions

* `Layer.Admitted`, `Message.Admitted`: headers that pass the check
* `Message.Operation.issues`: operations that sign, tag or encode

## Main results

* `Sign.SignedFrom.admitted`: a run through entries admits what it signs
* `Message.admitted_of_perform`: what is let through is admitted, before and after
* `header_rules`: the rules, their verdict, and the operations that they gate
-/

namespace Cose

/-- **A layer is admitted**: it is well formed and passes the check. -/
structure Layer.Admitted (h : Layer) : Prop where
  wellFormed : h.WellFormed
  checked : h.check = .ok ()

theorem Layer.Admitted.obeys {h : Layer} (admitted : h.Admitted) : h.Obeys :=
  (check_eq_ok_iff_obeys admitted.wellFormed.sided).mp admitted.checked

/-- A layer that is signed is admitted if it was before. -/
theorem Layer.Prepared.admitted {h : Layer} {a : Algorithm} (p : h.Prepared a)
    (before : h.Admitted) : p.layer.Admitted :=
  ⟨p.wellFormed before.wellFormed, p.check before.wellFormed.prot.labelled before.checked⟩

/-- A layer whose bytes are fixed is admitted if it was before. -/
theorem Layer.Admitted.fixed {h : Layer} {p : Bytes} (before : h.Admitted)
    (encoded : h.prot.encode = .ok p) :
    Admitted { h with prot := h.prot.fix p } :=
  ⟨⟨before.wellFormed.prot.fixed_encode encoded, before.wellFormed.unprot,
    before.wellFormed.isProtected, before.wellFormed.isUnprotected⟩, before.checked⟩

/-- **A run through entries admits what it signs**, before and after. -/
theorem Sign.SignedFrom.admitted {resolve : Resolver} {body payload aad : Value} {index : Nat}
    {ss ts : List Entry} (run : SignedFrom resolve body payload aad index ss ts)
    (wf : ∀ s ∈ ss, s.toLayer.WellFormed) :
    (∀ s ∈ ss, s.toLayer.Admitted) ∧ ∀ t ∈ ts, t.toLayer.Admitted := by
  induction run with
  | nil => exact ⟨nofun, nofun⟩
  | cons _ checked w _ ih =>
    rw [List.forall_mem_cons] at wf
    obtain ⟨before, after⟩ := ih wf.2
    have first : Layer.Admitted _ := ⟨wf.1, checked⟩
    exact ⟨List.forall_mem_cons.mpr ⟨first, before⟩,
      List.forall_mem_cons.mpr ⟨w.prepared.admitted first, after⟩⟩

namespace Message

/-- All layers of a message are admitted. -/
def Admitted (m : Message) : Prop :=
  ∀ h ∈ m.layers, h.Admitted

/-- An operation issues a message: it signs it, tags it, or encodes it. -/
def Operation.issues : Operation → Bool
  | .signAll .. | .sign .. | .encode => true
  | _ => false

theorem forall_layers_sign {P : Layer → Prop} {m : Sign} :
    (∀ h ∈ (Message.sign m).layers, P h) ↔ P m.toLayer ∧ ∀ s ∈ m.entries, P s.toLayer := by
  rw [layers, List.forall_mem_cons, List.forall_mem_map]

/-- What is encoded is admitted. -/
theorem admitted_of_encode {m : Message} {b : Bytes} (wf : ∀ h ∈ m.layers, h.WellFormed)
    (encoded : m.encode = .ok b) : m.Admitted := by
  cases m with
  | sign m =>
    obtain ⟨-, checked, p, elements, -, each, -⟩ := Sign.encode_eq_ok encoded
    rw [forall_layers_sign] at wf
    refine forall_layers_sign.mpr ⟨⟨wf.1, checked⟩, fun s hs => ?_⟩
    obtain ⟨i, hi⟩ := List.getElem?_of_mem hs
    obtain ⟨element, -, encoded⟩ := Forall₂.exists_getElem? each hi
    exact ⟨wf.2 s hs, (Entry.encode_eq_ok encoded).1⟩
  | sign1 m =>
    exact List.forall_mem_singleton.mpr
      ⟨List.forall_mem_singleton.mp wf, (Sign1.encode_eq_ok encoded).1⟩
  | mac0 m =>
    exact List.forall_mem_singleton.mpr
      ⟨List.forall_mem_singleton.mp wf, (Mac0.encode_eq_ok encoded).2.1⟩

/-- **What is let through is admitted**, as it was given and as it is left. -/
theorem admitted_of_perform {m : Message} {o : Operation} (wf : ∀ h ∈ m.layers, h.WellFormed)
    (issues : o.issues = true) (answered : (m.perform o).result = .ok ()) :
    m.Admitted ∧ (m.perform o).after.Admitted := by
  cases o with
  | signAll keys aad =>
    cases m with
    | sign m =>
      rw [forall_layers_sign] at wf
      rcases Sign.sign_cases m keys aad with
        ⟨e, failed, -⟩ | ⟨-, -, checked, -, resolve, body, entries, -, encoded, run, after⟩
      · cases failed.symm.trans answered
      have own : m.toLayer.Admitted := ⟨wf.1, checked⟩
      obtain ⟨before, signed⟩ := run.admitted wf.2
      refine ⟨forall_layers_sign.mpr ⟨own, before⟩, ?_⟩
      rw [perform, Step.within_after, after]
      exact forall_layers_sign.mpr ⟨own.fixed encoded, signed⟩
    | _ => cases answered
  | sign agent aad =>
    cases m with
    | sign m => cases answered
    | sign1 m =>
      obtain ⟨w, after⟩ := Sign1.sign_eq_ok answered
      have own : m.toLayer.Admitted := ⟨List.forall_mem_singleton.mp wf, w.checked⟩
      refine ⟨List.forall_mem_singleton.mpr own, ?_⟩
      rw [perform, Step.within_after, after]
      exact List.forall_mem_singleton.mpr (w.prepared.admitted own)
    | mac0 m =>
      obtain ⟨w, after⟩ := Mac0.createTag_eq_ok answered
      have own : m.toLayer.Admitted := ⟨List.forall_mem_singleton.mp wf, w.checked⟩
      refine ⟨List.forall_mem_singleton.mpr own, ?_⟩
      rw [perform, Step.within_after, after]
      exact List.forall_mem_singleton.mpr (w.prepared.admitted own)
  | encode =>
    have same : m.perform .encode = .pure m (m.encode.map fun _ => ()) := by
      cases m <;> rfl
    rw [same] at answered ⊢
    obtain ⟨b, encoded, -⟩ := Except.map_eq_ok.mp answered
    have admitted := admitted_of_encode wf encoded
    exact ⟨admitted, admitted⟩
  | _ => cases issues

end Message

/-- **The rules for headers.** A layer is refused exactly if it breaks one of them, and with an
error about headers. The verdict does not depend on the order of the entries or on the spellings of
critical labels, and the spellings of the labels of parameters leave no trace in a bucket. What
signing, tagging or encoding lets through obeys the rules in all its layers, as it was given and as
it is left. -/
theorem header_rules :
    (∀ h : Layer, h.Sided → h.Legible →
      ((∃ e, h.check = .error e) ↔ ¬ h.Obeys) ∧
        ∀ e, h.check = .error e → ∃ fault, e = .header fault) ∧
    (∀ h h' : Layer, h.Sided → h.prot.Respells h'.prot → h.unprot.Respells h'.unprot →
      (h.check = .ok () ↔ h'.check = .ok ())) ∧
    (∀ (b : Bucket) (ps qs : List (Value × Value)),
      List.Forall₂ (fun p q => Label.ofValue p.1 = Label.ofValue q.1 ∧ p.2 = q.2) ps qs →
      b.update (ps.map .ok) = b.update (qs.map .ok)) ∧
    ∀ (m : Message) (o : Message.Operation), (∀ h ∈ m.layers, h.WellFormed) → o.issues = true →
      (m.perform o).result = .ok () →
      (∀ h ∈ m.layers, h.Obeys) ∧ ∀ h ∈ (m.perform o).after.layers, h.Obeys := by
  refine ⟨fun h sided legible => ⟨?_, fun e => legible.check_eq_error⟩,
    fun h h' sided prot unprot => ?_, fun b ps qs => b.update_congr, ?_⟩
  · rw [← Layer.check_eq_ok_iff_obeys sided]
    rcases h.check with e | ⟨⟩ <;> simp
  · have sided' : h'.Sided := sided.of_respells prot unprot
    rw [Layer.check_eq_ok_iff_obeys sided, Layer.check_eq_ok_iff_obeys sided']
    exact ⟨fun obeys => obeys.of_respells prot unprot,
      fun obeys => obeys.of_respells prot.symm unprot.symm⟩
  · intro m o wf issues answered
    obtain ⟨before, after⟩ := Message.admitted_of_perform wf issues answered
    exact ⟨fun h mem => (before h mem).obeys, fun h mem => (after h mem).obeys⟩

/-- A layer with a list of critical labels, and the same one with its entries in another order and
the critical label under its alias; the first one is signed. -/
theorem header_rules_critical :
    let h : Layer :=
      { prot :=
          { isProtected := true, entries := [(.alg, .int (-7)), (.crit, .list [.int 1])] }
        unprot := { isProtected := false, entries := [(.kid, .bytes [0x31])] } }
    let h' : Layer :=
      { h with prot :=
          { isProtected := true, entries := [(.crit, .list [.text "alg"]), (.alg, .int (-7))] } }
    let m : Message :=
      .sign1 { h with payload := .null, signature := .bytes [], state := .unsigned }
    let o : Message.Operation := .sign (.marking .es256 1) (.bytes [])
    h.Obeys ∧ h'.check = .ok () ∧
      h.prot.update [.ok (.text "kid", .bytes [7])] = h.prot.update [.ok (.int 4, .bytes [7])] ∧
      ∀ h ∈ (m.perform o).after.layers, h.Obeys := by
  intro h h' m o
  obtain ⟨verdict, order, spelling, gates⟩ := header_rules
  have sided : h.Sided := ⟨rfl, rfl⟩
  have legible : h.Legible := by
    refine ⟨⟨?_, ?_⟩, ⟨?_, ?_⟩⟩ <;> decide +kernel
  have passes : h.check = .ok () := rfl
  have obeys : h.Obeys := by
    by_contra broken
    obtain ⟨e, failed⟩ := (verdict h sided legible).1.mpr broken
    cases passes.symm.trans failed
  have spelled : Value.Respells (.int 1) (.text "alg") := .inr ⟨.alg, rfl, rfl⟩
  have prot : h.prot.Respells h'.prot := by
    have listed : Bucket.SameParameter (.crit, .list [.int 1]) (.crit, .list [.text "alg"]) :=
      ⟨rfl, .inr ⟨rfl, _, _, rfl, rfl, .cons spelled .nil⟩⟩
    exact ⟨rfl, by simpa [h, h'] using ⟨.inr ⟨rfl, .inl rfl⟩, .inl listed⟩,
      by simpa [h, h'] using ⟨.inr listed, .inl ⟨rfl, .inl rfl⟩⟩⟩
  have unprot : h.unprot.Respells h'.unprot := Bucket.respells_of_perm rfl (.refl _)
  have wf : ∀ h ∈ m.layers, h.WellFormed := by
    have prot : h.prot.Labelled :=
      ⟨by decide, by simp [h, Bucket.labels, Label.IsCanonical]; decide⟩
    have unprot : h.unprot.Labelled :=
      ⟨by decide, by simp [h, Bucket.labels, Label.IsCanonical]; decide⟩
    exact List.forall_mem_singleton.mpr ⟨prot.wellFormed rfl, unprot.wellFormed rfl, rfl, rfl⟩
  exact ⟨obeys, (order h h' sided prot unprot).mp passes,
    spelling h.prot [(.text "kid", .bytes [7])] [(.int 4, .bytes [7])] (.cons ⟨rfl, rfl⟩ .nil),
    (gates m o wf rfl (by decide +kernel)).2⟩

end Cose
