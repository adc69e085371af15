import Mathlib.Data.List.Forall2
import FindingLedger.Bundle.Decode
import FindingLedger.Report.Basic

/-!
# Steps that may fail

Bundles are decoded and reports are written in steps, and the first step that fails ends
the whole. What a sequence of steps yields is read off its steps: a list is decoded or
written as a whole exactly when each member is.
-/

namespace FindingLedger

/-!
# One step after another
-/

theorem bind_eq_ok_iff {x : Except ε α} {next : α -> Except ε β} {b : β} :
    (x >>= next) = .ok b <-> exists a, x = .ok a ∧ next a = .ok b := by
  cases x with
  | error e =>
      simp [bind, Except.bind]
  | ok a =>
      simp [bind, Except.bind]

theorem map_eq_ok_iff {x : Except ε α} {f : α -> β} {b : β} :
    x.map f = .ok b <-> exists a, x = .ok a ∧ f a = b := by
  cases x with
  | error e =>
      simp [Except.map]
  | ok a =>
      simp [Except.map]

theorem mapError_eq_ok_iff {x : Except ε α} {f : ε -> ε'} {a : α} :
    x.mapError f = .ok a <-> x = .ok a := by
  cases x with
  | error e =>
      simp [Except.mapError]
  | ok b =>
      simp [Except.mapError]

theorem mapError_eq_error_iff {x : Except ε α} {f : ε -> ε'} {e' : ε'} :
    x.mapError f = .error e' <-> exists e, x = .error e ∧ f e = e' := by
  cases x with
  | error e =>
      simp [Except.mapError]
  | ok a =>
      simp [Except.mapError]

theorem toOption_eq_some_iff {x : Except ε α} {a : α} :
    x.toOption = some a <-> x = .ok a := by
  cases x with
  | error e =>
      simp [Except.toOption]
  | ok b =>
      simp [Except.toOption]

theorem map_toOption_eq_some_iff {x : Except ε α} {f : α -> β} {b : β} :
    x.toOption.map f = some b <-> exists a, x = .ok a ∧ f a = b := by
  simp only [Option.map_eq_some_iff, toOption_eq_some_iff]

theorem toOption_bind_congr {x y : Except ε α} (h : x.toOption = y.toOption)
    (next : α -> Except ε β) : (x >>= next).toOption = (y >>= next).toOption := by
  cases x with
  | error e =>
      cases y with
      | error e' =>
          rfl
      | ok b =>
          cases h
  | ok a =>
      cases y with
      | error e' =>
          cases h
      | ok b =>
          cases h
          rfl

/-!
# Lists
-/

theorem decodeEach_eq_ok_iff {decode : Nat -> α -> Except ε β} {index : Nat}
    {items : List α} {bs : List β} :
    Bundle.decodeEach decode index items = .ok bs <->
      List.Forall₂ (fun item b => decode item.2 item.1 = .ok b)
        (items.zipIdx index) bs := by
  induction items generalizing index bs with
  | nil =>
      cases bs <;> simp [Bundle.decodeEach]
  | cons item rest ih =>
      rw [List.zipIdx_cons, List.forall₂_cons_left_iff]
      unfold Bundle.decodeEach
      cases hitem : decode index item with
      | error e =>
          simp
      | ok b =>
          simp only [map_eq_ok_iff, ih]
          constructor
          · intro h
            rcases h with ⟨more, hmore, hbs⟩
            exact ⟨b, more, rfl, hmore, hbs.symm⟩
          · intro h
            rcases h with ⟨c, more, hc, hmore, hbs⟩
            cases hc
            exact ⟨more, hmore, hbs.symm⟩

/-- A list is decoded into what its members give, where the place of a member does not count. -/
theorem decodeEach_eq_ok_iff_forall₂ {decode : Nat -> α -> Except ε β} (gives : α -> β -> Prop)
    (hdecode : forall index item b, decode index item = .ok b <-> gives item b)
    {index : Nat} {items : List α} {bs : List β} :
    Bundle.decodeEach decode index items = .ok bs <-> List.Forall₂ gives items bs := by
  rw [decodeEach_eq_ok_iff]
  simp only [hdecode]
  rw [← List.forall₂_map_left_iff (f := Prod.fst), List.zipIdx_map_fst]

theorem each_eq_ok_iff {write : α -> Except Report.Error β} {as : List α} {bs : List β} :
    Report.each write as = .ok bs <->
      List.Forall₂ (fun a b => write a = .ok b) as bs := by
  induction as generalizing bs with
  | nil =>
      cases bs <;> simp [Report.each]
  | cons a rest ih =>
      rw [List.forall₂_cons_left_iff]
      simp only [Report.each, bind_eq_ok_iff, ih]
      constructor
      · intro h
        rcases h with ⟨b, hb, more, hmore, hbs⟩
        cases hbs
        exact ⟨b, more, hb, hmore, rfl⟩
      · intro h
        rcases h with ⟨b, more, hb, hmore, hbs⟩
        exact ⟨b, hb, more, hmore, by rw [hbs]; rfl⟩

/-- A list that agrees member by member with two lists one after the other is made of two
lists that agree with them. -/
theorem forall₂_append_left_iff {r : α -> β -> Prop} {as more : List α} {bs : List β} :
    List.Forall₂ r (as ++ more) bs <->
      exists front back, bs = front ++ back ∧ List.Forall₂ r as front ∧
        List.Forall₂ r more back := by
  constructor
  · intro h
    induction as generalizing bs with
    | nil =>
        exact ⟨[], bs, rfl, List.Forall₂.nil, h⟩
    | cons a rest ih =>
        cases h with
        | @cons _ b _ bs hab hrest =>
            rcases ih hrest with ⟨front, back, hbs, hfront, hback⟩
            exact ⟨b :: front, back, congrArg (b :: ·) hbs, List.Forall₂.cons hab hfront,
              hback⟩
  · rintro ⟨front, back, rfl, hfront, hback⟩
    exact List.rel_append hfront hback

theorem each_append_eq_ok_iff {write : α -> Except Report.Error β} {as more : List α}
    {bs : List β} :
    Report.each write (as ++ more) = .ok bs <->
      exists front back, bs = front ++ back ∧ Report.each write as = .ok front ∧
        Report.each write more = .ok back := by
  simp only [each_eq_ok_iff]
  exact forall₂_append_left_iff

theorem exists_each_eq_ok {write : α -> Except Report.Error β} {as : List α}
    (h : forall a, a ∈ as -> exists b, write a = .ok b) :
    exists bs, Report.each write as = .ok bs := by
  induction as with
  | nil =>
      exact ⟨[], rfl⟩
  | cons a rest ih =>
      rcases h a (by simp) with ⟨b, hb⟩
      rcases ih (fun c hc => h c (List.mem_cons_of_mem a hc)) with ⟨bs, hbs⟩
      refine ⟨b :: bs, ?_⟩
      rw [each_eq_ok_iff] at hbs ⊢
      exact List.Forall₂.cons hb hbs

/-- A pair of lists that agree member by member pairs each member of the second with one of
the first. -/
theorem exists_of_forall₂_right {r : α -> β -> Prop} {as : List α} {bs : List β}
    (h : List.Forall₂ r as bs) {b : β} (hb : b ∈ bs) :
    exists a, a ∈ as ∧ r a b := by
  induction h with
  | nil =>
      cases hb
  | cons hr _ ih =>
      cases hb with
      | head =>
          exact ⟨_, by simp, hr⟩
      | tail _ hrest =>
          rcases ih hrest with ⟨a, ha, hab⟩
          exact ⟨a, List.mem_cons_of_mem _ ha, hab⟩

theorem exists_getElem?_of_forall₂ {r : α -> β -> Prop} {as : List α} {bs : List β}
    (h : List.Forall₂ r as bs) {place : Nat} {b : β} (hb : bs[place]? = some b) :
    exists a, as[place]? = some a ∧ r a b := by
  induction h generalizing place with
  | nil =>
      cases hb
  | cons hab _ ih =>
      cases place with
      | zero =>
          cases hb
          exact ⟨_, rfl, hab⟩
      | succ place =>
          exact ih hb

theorem forall₂_trans {r : α -> β -> Prop} {s : β -> γ -> Prop} {t : α -> γ -> Prop}
    {as : List α} {bs : List β} {cs : List γ}
    (htrans : forall a b c, r a b -> s b c -> t a c) (hr : List.Forall₂ r as bs)
    (hs : List.Forall₂ s bs cs) : List.Forall₂ t as cs := by
  induction hr generalizing cs with
  | nil =>
      cases hs
      exact List.Forall₂.nil
  | cons hab _ ih =>
      cases hs with
      | cons hbc hs =>
          exact List.Forall₂.cons (htrans _ _ _ hab hbc) (ih hs)

/-- What holds between the members of a list carries over to a list that agrees with it
member by member. -/
theorem pairwise_of_forall₂ {r : α -> β -> Prop} {before : α -> α -> Prop}
    {after : β -> β -> Prop} {as : List α} {bs : List β} (h : List.Forall₂ r as bs)
    (hpairs : as.Pairwise before)
    (hafter : forall a a' b b', a ∈ as -> a' ∈ as -> before a a' -> r a b -> r a' b' ->
      after b b') :
    bs.Pairwise after := by
  induction h with
  | nil =>
      exact List.Pairwise.nil
  | @cons a b as bs hab hrest ih =>
      rcases List.pairwise_cons.mp hpairs with ⟨hhead, htail⟩
      refine List.Pairwise.cons ?_ (ih htail ?_)
      · intro b' hb'
        rcases exists_of_forall₂_right hrest hb' with ⟨a', ha', hab'⟩
        exact hafter a a' b b' List.mem_cons_self (List.mem_cons_of_mem a ha')
          (hhead a' ha') hab hab'
      · intro c c' d d' hc hc'
        exact hafter c c' d d' (List.mem_cons_of_mem a hc) (List.mem_cons_of_mem a hc')

end FindingLedger
