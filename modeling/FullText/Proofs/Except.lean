import Mathlib.Data.List.Forall2

/-!
Computations that may fail, taken apart. Each result says what has to have succeeded for a
combined computation to succeed.
-/

namespace FullText

variable {ε α β : Type}

theorem bind_eq_ok_iff {x : Except ε α} {f : α → Except ε β} {b : β} :
    x >>= f = .ok b ↔ ∃ a, x = .ok a ∧ f a = .ok b := by
  cases x with
  | error e => simp [bind, Except.bind]
  | ok a => simp [bind, Except.bind]

theorem bind_eq_error_iff {x : Except ε α} {f : α → Except ε β} {e : ε} :
    x >>= f = .error e ↔ x = .error e ∨ ∃ a, x = .ok a ∧ f a = .error e := by
  cases x with
  | error e => simp [bind, Except.bind]
  | ok a => simp [bind, Except.bind]

theorem bind_pure_eq_ok_iff {x : Except ε α} {f : α → β} {b : β} :
    (x >>= fun a => pure (f a)) = .ok b ↔ ∃ a, x = .ok a ∧ f a = b := by
  cases x with
  | error e => simp [bind, Except.bind]
  | ok a => simp [bind, Except.bind, pure, Except.pure]

/-- What is made of a result exists exactly when the result does. -/
@[simp]
theorem exists_map_eq_ok_iff {x : Except ε α} {f : α → β} :
    (∃ b, x.map f = .ok b) ↔ ∃ a, x = .ok a := by
  cases x with
  | error e => exact iff_of_false nofun nofun
  | ok a => exact iff_of_true ⟨f a, rfl⟩ ⟨a, rfl⟩

@[simp]
theorem exists_fmap_eq_ok_iff {x : Except ε α} {f : α → β} :
    (∃ b, f <$> x = .ok b) ↔ ∃ a, x = .ok a :=
  exists_map_eq_ok_iff

theorem map_eq_ok_iff {x : Except ε α} {f : α → β} {b : β} :
    x.map f = .ok b ↔ ∃ a, x = .ok a ∧ f a = b := by
  cases x with
  | error e => simp [Except.map]
  | ok a => simp [Except.map]

/-- Reading every item of a list succeeds exactly when each item is read. -/
theorem mapM_eq_ok_iff {f : α → Except ε β} {as : List α} {bs : List β} :
    as.mapM f = .ok bs ↔ List.Forall₂ (fun a b => f a = .ok b) as bs := by
  induction as generalizing bs with
  | nil =>
      rw [List.mapM_nil, List.forall₂_nil_left_iff]
      constructor
      · intro h
        exact (Except.ok.inj h).symm
      · rintro rfl
        rfl
  | cons a as ih =>
      rw [List.mapM_cons, bind_eq_ok_iff, List.forall₂_cons_left_iff]
      constructor
      · rintro ⟨b, hb, h⟩
        obtain ⟨more, hmore, h⟩ := bind_eq_ok_iff.mp h
        exact ⟨b, more, hb, ih.mp hmore, (Except.ok.inj h).symm⟩
      · rintro ⟨b, more, hb, hmore, rfl⟩
        exact ⟨b, hb, bind_eq_ok_iff.mpr ⟨more, ih.mpr hmore, rfl⟩⟩

/-- Reading changed items comes to changing what is read of the items. -/
theorem mapM_map_eq_map {f : α → Except ε β} {g : α → α} {h : β → β}
    (hread : ∀ a, f (g a) = (f a).map h) (as : List α) :
    (as.map g).mapM f = (as.mapM f).map (List.map h) := by
  induction as with
  | nil => rfl
  | cons a as ih =>
      rw [List.map_cons, List.mapM_cons, List.mapM_cons, hread, ih]
      cases f a with
      | error e => rfl
      | ok b => cases as.mapM f <;> rfl

/-- Reading every item of a list with its position. -/
theorem mapM_zipIdx_eq_ok {f : α × Nat → Except ε β} {as : List α} {bs : List β}
    (hread : as.zipIdx.mapM f = .ok bs) :
    List.Forall₂ (fun a b => ∃ position, f (a, position) = .ok b) as bs := by
  rw [mapM_eq_ok_iff] at hread
  rw [← List.zipIdx_map_fst 0 as, List.forall₂_map_left_iff]
  exact hread.imp fun (_, position) _ hok => ⟨position, hok⟩

/-- A list can be related to another item by item if each of its items is related to something. -/
theorem exists_forall₂_iff {R : α → β → Prop} {as : List α} :
    (∃ bs, List.Forall₂ R as bs) ↔ ∀ a ∈ as, ∃ b, R a b := by
  induction as with
  | nil => exact iff_of_true ⟨[], .nil⟩ nofun
  | cons a as ih =>
      rw [List.forall_mem_cons, ← ih]
      constructor
      · rintro ⟨_, hcons⟩
        obtain ⟨b, bs, hb, hbs, -⟩ := List.forall₂_cons_left_iff.mp hcons
        exact ⟨⟨b, hb⟩, bs, hbs⟩
      · rintro ⟨⟨b, hb⟩, bs, hbs⟩
        exact ⟨b :: bs, .cons hb hbs⟩

/-- What holds of all that is related to something holds of a list that is related item by item. -/
theorem forall_mem_of_forall₂ {R : α → β → Prop} {p : β → Prop} {as : List α} {bs : List β}
    (hitems : List.Forall₂ R as bs) (hp : ∀ a b, R a b → p b) : ∀ b ∈ bs, p b := by
  induction hitems with
  | nil => exact nofun
  | cons hitem _ ih => exact List.forall_mem_cons.mpr ⟨hp _ _ hitem, ih⟩

theorem exists_mem_of_forall₂ {R : α → β → Prop} {as : List α} {bs : List β}
    (hitems : List.Forall₂ R as bs) : ∀ b ∈ bs, ∃ a ∈ as, R a b :=
  forall_mem_of_forall₂ ((List.forall₂_and_left _ _).mpr ⟨fun _ hmem => hmem, hitems⟩)
    fun a _ hitem => ⟨a, hitem⟩

/-- A numbered list is related to another if both are of one length and what stands at a position is
related to what stands at the same position. -/
theorem forall₂_zipIdx_iff {R : α × Nat → β → Prop} {as : List α} {bs : List β} :
    List.Forall₂ R as.zipIdx bs ↔ bs.length = as.length ∧ ∀ (position : Nat) a b,
      as[position]? = some a → bs[position]? = some b → R (a, position) b := by
  rw [List.forall₂_iff_get]
  constructor
  · rintro ⟨hlength, hitems⟩
    refine ⟨hlength.symm.trans List.length_zipIdx, fun position a b ha hb => ?_⟩
    obtain ⟨hposition, rfl⟩ := List.getElem?_eq_some_iff.mp ha
    obtain ⟨hmember, rfl⟩ := List.getElem?_eq_some_iff.mp hb
    have hitem := hitems position (by rwa [List.length_zipIdx]) hmember
    rwa [List.get_eq_getElem, List.get_eq_getElem, List.getElem_zipIdx, Nat.zero_add] at hitem
  · rintro ⟨hlength, hitems⟩
    refine ⟨List.length_zipIdx.trans hlength.symm, fun position hposition hmember => ?_⟩
    rw [List.length_zipIdx] at hposition
    rw [List.get_eq_getElem, List.get_eq_getElem, List.getElem_zipIdx, Nat.zero_add]
    exact hitems position _ _ (List.getElem?_eq_getElem hposition) (List.getElem?_eq_getElem hmember)

/-! ### Errors -/

/-- The error that a computation ends in, if it fails. -/
def failure? : Except ε α → Option ε
  | .error e => some e
  | .ok _ => none

theorem failure?_eq_some_iff {x : Except ε α} {e : ε} : failure? x = some e ↔ x = .error e := by
  cases x with
  | error e => simp [failure?]
  | ok a => simp [failure?]

theorem failure?_eq_none_iff {x : Except ε α} : failure? x = none ↔ ∃ a, x = .ok a := by
  cases x with
  | error e => simp [failure?]
  | ok a => simp [failure?]

@[simp]
theorem failure?_map {x : Except ε α} {f : α → β} : failure? (x.map f) = failure? x := by
  cases x <;> rfl

@[simp]
theorem failure?_bind_pure {x : Except ε α} {f : α → β} :
    failure? (x >>= fun a => pure (f a)) = failure? x := by
  cases x <;> rfl

/-- A computation fails as its first part does, and else as the rest does, if the rest fails alike
whatever it is given. -/
theorem failure?_bind {x : Except ε α} {f : α → Except ε β} {rest : Option ε}
    (hrest : ∀ a, failure? (f a) = rest) : failure? (x >>= f) = (failure? x).or rest := by
  cases x with
  | error e => rfl
  | ok a => exact hrest a

/-- The errors that a computation can end in all have a property. -/
def FailsWith (p : ε → Prop) (x : Except ε α) : Prop :=
  ∀ e, x = .error e → p e

section Errors

variable {p : ε → Prop} {x : Except ε α} {f : α → Except ε β}

@[simp]
theorem failsWith_ok (a : α) : FailsWith p (.ok a : Except ε α) :=
  fun _ herror => nomatch herror

@[simp]
theorem failsWith_pure (a : α) : FailsWith p (pure a : Except ε α) :=
  failsWith_ok a

@[simp]
theorem failsWith_error_iff {e : ε} : FailsWith p (.error e : Except ε α) ↔ p e := by
  constructor
  · intro hfails
    exact hfails e rfl
  · rintro he _ ⟨⟩
    exact he

@[simp]
theorem failsWith_throw_iff {e : ε} : FailsWith p (throw e : Except ε α) ↔ p e :=
  failsWith_error_iff

@[simp]
theorem failsWith_map_iff {g : α → β} : FailsWith p (x.map g) ↔ FailsWith p x := by
  cases x with
  | error e => exact failsWith_error_iff.trans failsWith_error_iff.symm
  | ok a => exact iff_of_true (failsWith_ok (g a)) (failsWith_ok a)

@[simp]
theorem failsWith_fmap_iff {g : α → β} : FailsWith p (g <$> x) ↔ FailsWith p x :=
  failsWith_map_iff

@[simp]
theorem failsWith_bind_iff :
    FailsWith p (x >>= f) ↔ FailsWith p x ∧ ∀ a, x = .ok a → FailsWith p (f a) := by
  cases x with
  | error e =>
      change FailsWith p (.error e) ↔ _
      simp
  | ok a =>
      change FailsWith p (f a) ↔ _
      simp

theorem FailsWith.bind (hx : FailsWith p x) (hf : ∀ a, x = .ok a → FailsWith p (f a)) :
    FailsWith p (x >>= f) :=
  failsWith_bind_iff.mpr ⟨hx, hf⟩

/-- Reading a list fails with the error of an item. -/
theorem FailsWith.mapM {as : List α} (hitems : ∀ a ∈ as, FailsWith p (f a)) :
    FailsWith p (as.mapM f) := by
  induction as with
  | nil => exact failsWith_ok []
  | cons a as ih =>
      obtain ⟨ha, has⟩ := List.forall_mem_cons.mp hitems
      rw [List.mapM_cons]
      refine ha.bind fun b _ => ?_
      exact (ih has).bind fun more _ => failsWith_pure (b :: more)

end Errors

/-! ### The first item that fails -/

/-- Reading a list fails as the first of its items that cannot be read. -/
theorem failure?_mapM {f : α → Except ε β} {as : List α} :
    failure? (as.mapM f) = as.findSome? fun a => failure? (f a) := by
  induction as with
  | nil => rfl
  | cons a as ih =>
      have hrest (b : β) :
          failure? (as.mapM f >>= fun more => pure (b :: more)) = failure? (as.mapM f) :=
        failure?_bind_pure
      rw [List.mapM_cons, failure?_bind hrest, ih, List.findSome?_cons]
      cases failure? (f a) <;> rfl

/-- The first result in a list of numbered items is that of an item at some position, and no item
before it has one. -/
theorem findSome?_zipIdx_eq_some_iff {f : α × Nat → Option β} {as : List α} {b : β} :
    as.zipIdx.findSome? f = some b ↔ ∃ before a after, as = before ++ a :: after ∧
      f (a, before.length) = some b ∧ ∀ earlier ∈ before.zipIdx, f earlier = none := by
  rw [List.findSome?_eq_some_iff]
  constructor
  · rintro ⟨_, _, _, hzip, hb, hbefore⟩
    obtain ⟨before, rest, rfl, rfl, hrest⟩ := List.zipIdx_eq_append_iff.mp hzip
    obtain ⟨a, after, rfl, hnumbered, -⟩ := List.zipIdx_eq_cons_iff.mp hrest.symm
    rw [Nat.zero_add] at hnumbered
    exact ⟨before, a, after, rfl, hnumbered ▸ hb, hbefore⟩
  · rintro ⟨before, a, after, rfl, hb, hbefore⟩
    refine ⟨before.zipIdx, (a, before.length), after.zipIdx (before.length + 1), ?_, hb, hbefore⟩
    rw [List.zipIdx_append, List.zipIdx_cons, Nat.zero_add]

/-- Items are read with their positions, but whether an item can be read does not depend on where it
stands. Of an item that cannot be read the position is told. -/
structure TellsPosition (f : α × Nat → Except ε β) (readable : α → Prop) (missing : Nat → ε) :
    Prop where
  of_readable : ∀ a position, readable a → ∃ b, f (a, position) = .ok b
  of_unreadable : ∀ a position, ¬readable a → f (a, position) = .error (missing position)

namespace TellsPosition

variable {f : α × Nat → Except ε β} {readable : α → Prop} {missing : Nat → ε}

theorem ok_iff (htells : TellsPosition f readable missing) (numbered : α × Nat) :
    (∃ b, f numbered = .ok b) ↔ readable numbered.1 := by
  refine ⟨fun ⟨b, hb⟩ => ?_, htells.of_readable _ _⟩
  by_contra hunreadable
  rw [htells.of_unreadable _ numbered.2 hunreadable] at hb
  cases hb

theorem error_iff (htells : TellsPosition f readable missing) (a : α) (position : Nat) {e : ε} :
    f (a, position) = .error e ↔ ¬readable a ∧ e = missing position := by
  by_cases hreadable : readable a
  · obtain ⟨b, hb⟩ := htells.of_readable a position hreadable
    simp [hb, hreadable]
  · simp [htells.of_unreadable a position hreadable, hreadable, eq_comm]

theorem exists_mapM_ok_iff (htells : TellsPosition f readable missing) {as : List α} :
    (∃ bs, as.zipIdx.mapM f = .ok bs) ↔ ∀ a ∈ as, readable a := by
  simp only [mapM_eq_ok_iff, exists_forall₂_iff, htells.ok_iff]
  constructor
  · intro hread a ha
    rw [← List.zipIdx_map_fst 0 as] at ha
    obtain ⟨numbered, hnumbered, rfl⟩ := List.mem_map.mp ha
    exact hread numbered hnumbered
  · intro hreadable numbered hnumbered
    exact hreadable _ (List.fst_mem_of_mem_zipIdx hnumbered)

/-- What is told is the position of the first item that cannot be read. -/
theorem mapM_error_iff (htells : TellsPosition f readable missing) {as : List α} {e : ε} :
    as.zipIdx.mapM f = .error e ↔ ∃ before a after, as = before ++ a :: after ∧
      (∀ earlier ∈ before, readable earlier) ∧ ¬readable a ∧ e = missing before.length := by
  have hread (before : List α) : (∀ earlier ∈ before, readable earlier) ↔
      ∀ numbered ∈ before.zipIdx, failure? (f numbered) = none := by
    simp only [← htells.exists_mapM_ok_iff, mapM_eq_ok_iff, exists_forall₂_iff,
      failure?_eq_none_iff]
  rw [← failure?_eq_some_iff, failure?_mapM, findSome?_zipIdx_eq_some_iff]
  simp only [failure?_eq_some_iff, htells.error_iff, hread]
  refine exists_congr fun before => exists_congr fun a => exists_congr fun after => ?_
  exact and_congr_right fun _ => and_comm

end TellsPosition

end FullText
