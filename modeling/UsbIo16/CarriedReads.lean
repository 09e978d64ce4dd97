import Mathlib.Data.List.Basic
import Mathlib.Data.List.GetD

/-!
# Selection by a value that may be carried over

A loop looks at items in order and reads a value of each into one variable.
Where the reading fails, the variable keeps what was read before, and the
item is selected by that. The selection is by the items' own values exactly
when no item without a value of its own meets a wanted one in the variable.
-/

namespace UsbIo16.CarriedReads

variable {ι ρ δ : Type}

/-- What the loop does with an item: whether it looks at it, what it reads
of it, and the name under which it selects it. -/
structure Reader (ι ρ δ : Type) where
  /-- Whether the loop looks at the item at all. -/
  looks : ι → Bool
  /-- What it reads then, absent when the reading fails. -/
  reads : ι → Option ρ
  /-- The name of the item. -/
  name : ι → δ

/-- The variable after the turn of an item. -/
def Reader.after (R : Reader ι ρ δ) (seen : ρ) (i : ι) : ρ :=
  if R.looks i=true then (R.reads i).getD seen else seen

/-- The names selected by the loop, the variable holding `seen` at first. -/
def Reader.selected (R : Reader ι ρ δ) (wanted : ρ → Bool) : ρ → List ι → List δ
  | _,[] => []
  | seen,i::is =>
    if R.looks i=true ∧ wanted (R.after seen i)=true then
      R.name i::R.selected wanted (R.after seen i) is
    else R.selected wanted (R.after seen i) is

/-- The name of an item whose own value is wanted. -/
def Reader.own (R : Reader ι ρ δ) (wanted : ρ → Bool) (i : ι) : Option δ :=
  if R.looks i=true ∧ (R.reads i).any wanted=true then some (R.name i) else none

/-- The value last read of these items, if any was. -/
def Reader.lastRead (R : Reader ι ρ δ) (seen : ρ) (is : List ι) : ρ :=
  (((is.filter R.looks).filterMap R.reads).getLast?).getD seen

/-- No item that the loop looks at without a value of its own comes when the
value last read, or the one at the start, is wanted. -/
def Reader.Separate (R : Reader ι ρ δ) (wanted : ρ → Bool) (seen : ρ) (is : List ι) : Prop :=
  ∀ before i behind,is=before++i::behind → R.looks i=true → R.reads i=none →
    wanted (R.lastRead seen before)=false

variable {R : Reader ι ρ δ} {wanted : ρ → Bool} {seen : ρ} {i : ι} {is : List ι}

/-- The first item is selected, or not, before the others. -/
theorem Reader.selected_cons :
    R.selected wanted seen (i::is)=
      R.selected wanted seen [i]++R.selected wanted (R.after seen i) is := by
  rw [Reader.selected,Reader.selected,Reader.selected]
  by_cases h : R.looks i=true ∧ wanted (R.after seen i)=true
  · rw [if_pos h,if_pos h,List.singleton_append]
  · rw [if_neg h,if_neg h,List.nil_append]

/-- The value last read is what the variable holds. -/
theorem Reader.lastRead_cons : R.lastRead seen (i::is)=R.lastRead (R.after seen i) is := by
  rw [Reader.lastRead,Reader.lastRead,Reader.after]
  by_cases hl : R.looks i=true
  · rw [List.filter_cons_of_pos hl,if_pos hl]
    cases hr : R.reads i with
    | none => rw [List.filterMap_cons_none hr,Option.getD_none]
    | some r =>
      rw [List.filterMap_cons_some hr,List.getLast?_cons,Option.getD_some,Option.getD_some]
  · rw [List.filter_cons_of_neg hl,if_neg hl]

/-- The items are separate when the first one is and the others are behind it. -/
theorem Reader.separate_cons : R.Separate wanted seen (i::is) ↔
    (R.looks i=true → R.reads i=none → wanted seen=false) ∧ R.Separate wanted (R.after seen i) is := by
  constructor
  · intro h
    refine ⟨fun hl hr => h [] i is rfl hl hr,fun before j behind he hl hr => ?_⟩
    rw [←Reader.lastRead_cons]
    exact h (i::before) j behind (congrArg (i::·) he) hl hr
  · rintro ⟨hfirst,hrest⟩ before j behind he hl hr
    cases before with
    | nil =>
      obtain ⟨rfl,-⟩ := List.cons.inj he
      exact hfirst hl hr
    | cons k before =>
      obtain ⟨rfl,htail⟩ := List.cons.inj he
      rw [Reader.lastRead_cons]
      exact hrest before j behind htail hl hr

/-- An item the loop does not look at changes nothing. -/
theorem Reader.turn_passed (hl : ¬R.looks i=true) :
    R.own wanted i=none ∧ R.selected wanted seen (i::is)=R.selected wanted seen is := by
  have ha : R.after seen i=seen := if_neg hl
  refine ⟨if_neg fun h => hl h.1,?_⟩
  rw [Reader.selected,if_neg fun h => hl h.1,ha]

/-- An item with a value of its own is selected by it. -/
theorem Reader.turn_read (hl : R.looks i=true) {r : ρ} (hr : R.reads i=some r) :
    R.selected wanted seen (i::is)=(R.own wanted i).toList++R.selected wanted (R.after seen i) is := by
  have ha : R.after seen i=r := by rw [Reader.after,if_pos hl,hr,Option.getD_some]
  rw [Reader.selected,Reader.own,ha,hr,Option.any_some]
  by_cases hw : wanted r=true
  · rw [if_pos ⟨hl,hw⟩,if_pos ⟨hl,hw⟩]
    rfl
  · rw [if_neg fun h => hw h.2,if_neg fun h => hw h.2]
    rfl

/-- An item without a value of its own is selected by what was read before. -/
theorem Reader.turn_unread (hl : R.looks i=true) (hr : R.reads i=none) :
    R.own wanted i=none ∧ R.selected wanted seen (i::is)=
      if wanted seen=true then R.name i::R.selected wanted seen is else R.selected wanted seen is := by
  have ha : R.after seen i=seen := by rw [Reader.after,if_pos hl,hr,Option.getD_none]
  refine ⟨if_neg fun h => ?_,?_⟩
  · rw [hr] at h
    exact nomatch h.2
  · rw [Reader.selected,ha]
    by_cases hw : wanted seen=true
    · rw [if_pos ⟨hl,hw⟩,if_pos hw]
    · rw [if_neg fun h => hw h.2,if_neg hw]

/-- The items whose own value is wanted, the first one apart. -/
theorem Reader.own_cons :
    (i::is).filterMap (R.own wanted)=(R.own wanted i).toList++is.filterMap (R.own wanted) := by
  cases h : R.own wanted i with
  | none => rw [List.filterMap_cons_none h]; rfl
  | some n => rw [List.filterMap_cons_some h]; rfl

/-- The selection has at least the items whose own value is wanted. -/
theorem Reader.own_length_le :
    (is.filterMap (R.own wanted)).length≤(R.selected wanted seen is).length := by
  induction is generalizing seen with
  | nil => exact Nat.zero_le _
  | cons i is ih =>
    have hi : (is.filterMap (R.own wanted)).length≤(R.selected wanted seen is).length := ih
    rw [Reader.own_cons,List.length_append]
    by_cases hl : R.looks i=true
    · cases hr : R.reads i with
      | none =>
        obtain ⟨hown,hsel⟩ : R.own wanted i=none ∧ R.selected wanted seen (i::is)=_ := R.turn_unread hl hr
        rw [hown,hsel,Option.toList_none,List.length_nil,Nat.zero_add]
        by_cases hw : wanted seen=true
        · rw [if_pos hw,List.length_cons]
          omega
        · rw [if_neg hw]
          exact ih
      | some r =>
        rw [R.turn_read hl hr,List.length_append]
        exact Nat.add_le_add_left ih _
    · obtain ⟨hown,hsel⟩ : R.own wanted i=none ∧ R.selected wanted seen (i::is)=_ := R.turn_passed hl
      rw [hown,hsel,Option.toList_none,List.length_nil,Nat.zero_add]
      exact ih

/-- The loop selects by the items' own values exactly when they are separate. -/
theorem Reader.selected_eq_own_iff :
    R.selected wanted seen is=is.filterMap (R.own wanted) ↔ R.Separate wanted seen is := by
  induction is generalizing seen with
  | nil =>
    refine iff_of_true rfl fun before i behind he => ?_
    cases before <;> exact nomatch he
  | cons i is ih =>
    rw [Reader.separate_cons,Reader.own_cons]
    by_cases hl : R.looks i=true
    · cases hr : R.reads i with
      | none =>
        have ha : R.after seen i=seen := by rw [Reader.after,if_pos hl,hr,Option.getD_none]
        obtain ⟨hown,hsel⟩ : R.own wanted i=none ∧ R.selected wanted seen (i::is)=_ := R.turn_unread hl hr
        rw [hown,hsel,ha,Option.toList_none,List.nil_append]
        cases hw : wanted seen with
        | true =>
          -- one name too many: the others are all selected anyway
          rw [if_pos rfl]
          refine iff_of_false (fun h => ?_) fun h => nomatch h.1 hl rfl
          have hlen := congrArg List.length h
          have hle : (is.filterMap (R.own wanted)).length≤(R.selected wanted seen is).length := R.own_length_le
          rw [List.length_cons] at hlen
          omega
        | false =>
          rw [if_neg Bool.false_ne_true,ih]
          exact (and_iff_right fun _ _ => rfl).symm
      | some r =>
        rw [R.turn_read hl hr,List.append_cancel_left_eq,ih]
        exact (and_iff_right fun _ he => nomatch he).symm
    · have ha : R.after seen i=seen := if_neg hl
      obtain ⟨hown,hsel⟩ : R.own wanted i=none ∧ R.selected wanted seen (i::is)=_ := R.turn_passed hl
      rw [hown,hsel,ha,Option.toList_none,List.nil_append,ih]
      exact (and_iff_right fun hlook => absurd hlook hl).symm

end UsbIo16.CarriedReads
