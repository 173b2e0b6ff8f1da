import Mathlib.Data.List.Forall2
import SqlDialects.Proofs.Rows.Problem

/-! Results that may be errors: what holds of a result if there is one, and two results that go the
same way. Both are kept up step by step along a computation. -/

namespace SqlDialects

theorem map_eq_ok_iff {x : Except ε α} {f : α → β} {b : β} :
    (x >>= fun a => pure (f a)) = .ok b ↔ ∃ a, x = .ok a ∧ b = f a := by
  rw [bind_eq_ok_iff]
  exact exists_congr fun a => and_congr_right fun _ =>
    ⟨fun h => (Except.ok.inj h).symm, fun h => congrArg Except.ok h.symm⟩

/-- What holds of a result, if there is one. -/
def Yields (Good : α → Prop) (x : Except ε α) : Prop := ∀ a, x = .ok a → Good a

namespace Yields

variable {x : Except ε α} {Good : α → Prop}

theorem ok {a : α} (h : Good a) : Yields Good (.ok a : Except ε α) := by
  rintro b ⟨⟩
  exact h

theorem error {e : ε} : Yields Good (.error e : Except ε α) := by
  rintro _ ⟨⟩

theorem imp {Better : α → Prop} (hx : Yields Good x) (h : ∀ a, Good a → Better a) :
    Yields Better x :=
  fun a ha => h a (hx a ha)

theorem bind {next : α → Except ε β} {Better : β → Prop} (hx : Yields Good x)
    (hnext : ∀ a, Good a → Yields Better (next a)) : Yields Better (x >>= next) := by
  intro b hb
  obtain ⟨a, ha, hb⟩ := bind_eq_ok_iff.mp hb
  exact hnext a (hx a ha) b hb

/-- Behind a step of which only the success matters. -/
theorem after {next : α → Except ε β} {Better : β → Prop} (h : ∀ a, Yields Better (next a)) :
    Yields Better (x >>= next) := by
  have hx : Yields (fun _ => True) x := fun _ _ => trivial
  exact hx.bind fun a _ => h a

theorem map {f : α → β} {Better : β → Prop} (hx : Yields Good x)
    (hf : ∀ a, Good a → Better (f a)) : Yields Better (x >>= fun a => pure (f a)) :=
  hx.bind fun a ha => ok (hf a ha)

theorem mapM {f : γ → Except ε α} {items : List γ} (h : ∀ item ∈ items, Yields Good (f item)) :
    Yields (fun results => ∀ result ∈ results, Good result) (items.mapM f) := by
  induction items with
  | nil => exact ok fun _ hmem => absurd hmem List.not_mem_nil
  | cons item rest ih =>
    obtain ⟨hitem, hrest⟩ := List.forall_mem_cons.mp h
    rw [List.mapM_cons]
    exact hitem.bind fun result hresult => (ih hrest).map fun results hresults =>
      List.forall_mem_cons.mpr ⟨hresult, hresults⟩

end Yields

/-- A traversal succeeds exactly if it does at every item. -/
theorem mapM_isOk_iff {f : α → Except ε β} {items : List α} :
    (∃ results, items.mapM f = .ok results) ↔ ∀ item ∈ items, ∃ result, f item = .ok result := by
  induction items with
  | nil => exact iff_of_true ⟨[], rfl⟩ fun item h => absurd h List.not_mem_nil
  | cons item rest ih =>
    rw [List.forall_mem_cons, ← ih, List.mapM_cons]
    constructor
    · rintro ⟨results, h⟩
      obtain ⟨result, hitem, h⟩ := bind_eq_ok_iff.mp h
      obtain ⟨more, hrest, -⟩ := bind_eq_ok_iff.mp h
      exact ⟨⟨result, hitem⟩, more, hrest⟩
    · rintro ⟨⟨result, hitem⟩, more, hrest⟩
      exact ⟨result :: more, by rw [hitem, hrest]; rfl⟩

theorem forall₂_of_mapM_eq_ok {f : γ → Except ε α} {items : List γ} {results : List α}
    (h : items.mapM f = .ok results) :
    List.Forall₂ (fun item result => f item = .ok result) items results := by
  induction items generalizing results with
  | nil =>
    cases h
    exact .nil
  | cons item rest ih =>
    rw [List.mapM_cons] at h
    obtain ⟨result, hitem, h⟩ := bind_eq_ok_iff.mp h
    obtain ⟨more, hrest, h⟩ := bind_eq_ok_iff.mp h
    cases h
    exact .cons hitem (ih hrest)

/-- Every item has its result among the results. -/
theorem exists_of_mapM_eq_ok {f : γ → Except ε α} {items : List γ} {results : List α}
    (h : items.mapM f = .ok results) {item : γ} (hmem : item ∈ items) :
    ∃ result ∈ results, f item = .ok result := by
  induction items generalizing results with
  | nil => exact absurd hmem List.not_mem_nil
  | cons head tail ih =>
    rw [List.mapM_cons] at h
    obtain ⟨first, hfirst, h⟩ := bind_eq_ok_iff.mp h
    obtain ⟨rest, hrest, h⟩ := bind_eq_ok_iff.mp h
    cases h
    rcases List.mem_cons.mp hmem with rfl | hmem
    · exact ⟨first, List.mem_cons_self, hfirst⟩
    · obtain ⟨result, hresult, hok⟩ := ih hrest hmem
      exact ⟨result, List.mem_cons_of_mem _ hresult, hok⟩

/-- What is read from the results, if it is what the items say. -/
theorem map_eq_of_mapM {f : γ → Except ε α} {read : α → β} {said : γ → β} {items : List γ}
    (h : ∀ item ∈ items, Yields (fun result => read result = said item) (f item)) :
    Yields (fun results => results.map read = items.map said) (items.mapM f) := by
  induction items with
  | nil => exact .ok rfl
  | cons item rest ih =>
    obtain ⟨hitem, hrest⟩ := List.forall_mem_cons.mp h
    rw [List.mapM_cons]
    refine hitem.bind fun result hresult => (ih hrest).map fun results hresults => ?_
    rw [List.map_cons, List.map_cons, hresult, hresults]

/-- Two results that are the same error, or two that are related. -/
inductive Agree (Good : α → β → Prop) : Except ε α → Except ε β → Prop
  | error (e : ε) : Agree Good (.error e) (.error e)
  | ok {a : α} {b : β} (h : Good a b) : Agree Good (.ok a) (.ok b)

namespace Agree

variable {x : Except ε α} {y : Except ε β} {Good : α → β → Prop} {Better : γ → δ → Prop}

theorem bind {next : α → Except ε γ} {next' : β → Except ε δ} (h : Agree Good x y)
    (hnext : ∀ a b, Good a b → Agree Better (next a) (next' b)) :
    Agree Better (x >>= next) (y >>= next') := by
  cases h with
  | error e => exact .error e
  | ok h => exact hnext _ _ h

theorem map {f : α → γ} {g : β → δ} (h : Agree Good x y)
    (hf : ∀ a b, Good a b → Better (f a) (g b)) :
    Agree Better (x >>= fun a => pure (f a)) (y >>= fun b => pure (g b)) :=
  h.bind fun a b hab => .ok (hf a b hab)

/-- One result on both sides. -/
theorem same {Good : α → α → Prop} (h : ∀ a, x = .ok a → Good a a) : Agree Good x x := by
  cases x with
  | error e => exact .error e
  | ok a => exact .ok (h a rfl)

theorem and_yields {P : α → Prop} {Q : β → Prop} (h : Agree Good x y) (hx : Yields P x)
    (hy : Yields Q y) : Agree (fun a b => Good a b ∧ P a ∧ Q b) x y := by
  cases h with
  | error e => exact .error e
  | ok h => exact .ok ⟨h, hx _ rfl, hy _ rfl⟩

/-- Behind one step on both sides. -/
theorem after {next : α → Except ε γ} {next' : α → Except ε δ}
    (h : ∀ a, Agree Better (next a) (next' a)) : Agree Better (x >>= next) (x >>= next') := by
  refine (same fun _ _ => rfl : Agree Eq x x).bind ?_
  rintro a _ rfl
  exact h a

theorem mapM {P : ι → κ → Prop} {f : ι → Except ε α} {g : κ → Except ε β} {items : List ι}
    {others : List κ} (hf : ∀ i k, P i k → Agree Good (f i) (g k))
    (h : List.Forall₂ P items others) :
    Agree (List.Forall₂ Good) (items.mapM f) (others.mapM g) := by
  induction h with
  | nil => exact .ok .nil
  | cons hhead _ ih =>
    rw [List.mapM_cons, List.mapM_cons]
    exact (hf _ _ hhead).bind fun a b hab => ih.map fun as bs hrest => .cons hab hrest

end Agree

end SqlDialects
