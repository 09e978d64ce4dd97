import Mathlib.Data.List.Basic

/-!
# Traversals that can be stopped

A traversal visits items in order; each visit changes a state and may ask
to stop. Items can come in groups, and a loop over groups around a loop over
items obeys such a request only to the end of the group. The rules here say
what a whole traversal preserves, and when the nested loops do the same as
one loop over all items.
-/

namespace UsbIo16.Traversal

variable {δ σ : Type} (visit : δ → σ → Bool×σ)

/-- Visit the items up to the first request to stop: whether there was one,
and the state then. -/
def visitAll : List δ → σ → Bool×σ
  | [],s => (false,s)
  | d::ds,s => if (visit d s).1=true then visit d s else visitAll ds (visit d s).2

/-- Visit the groups one after the other; a request to stop ends its group only. -/
def visitGroups : List (List δ) → σ → σ
  | [],s => s
  | g::gs,s => visitGroups gs (visitAll visit g s).2

variable {visit} {d : δ} {ds as bs : List δ} {g : List δ} {gs before after : List (List δ)} {s : σ}

/-- A visit that asks to stop ends the traversal. -/
theorem visitAll_cons_stop (h : (visit d s).1=true) : visitAll visit (d::ds) s=visit d s := if_pos h

/-- A visit that does not is followed by the others. -/
theorem visitAll_cons_go (h : (visit d s).1=false) :
    visitAll visit (d::ds) s=visitAll visit ds (visit d s).2 := by
  rw [visitAll,if_neg (by rw [h]; exact Bool.false_ne_true)]

/-- Once stopped, the items behind are not visited. -/
theorem visitAll_append_stop (h : (visitAll visit as s).1=true) :
    visitAll visit (as++bs) s=visitAll visit as s := by
  induction as generalizing s with
  | nil => exact absurd h Bool.false_ne_true
  | cons d as ih =>
    cases hd : (visit d s).1 with
    | true => rw [List.cons_append,visitAll_cons_stop hd,visitAll_cons_stop hd]
    | false =>
      rw [visitAll_cons_go hd] at h
      rw [List.cons_append,visitAll_cons_go hd,visitAll_cons_go hd,ih h]

/-- Not stopped, the traversal goes on with the items behind. -/
theorem visitAll_append_go (h : (visitAll visit as s).1=false) :
    visitAll visit (as++bs) s=visitAll visit bs (visitAll visit as s).2 := by
  induction as generalizing s with
  | nil => rfl
  | cons d as ih =>
    cases hd : (visit d s).1 with
    | true =>
      rw [visitAll_cons_stop hd,hd] at h
      exact absurd h.symm Bool.false_ne_true
    | false =>
      rw [visitAll_cons_go hd] at h
      rw [List.cons_append,visitAll_cons_go hd,visitAll_cons_go hd,ih h]

section Rules

/-- Every visit of one of these items preserves `I`. -/
def Keeps (visit : δ → σ → Bool×σ) (I : σ → Prop) (ds : List δ) : Prop :=
  ∀ d∈ds,∀ s,I s → I (visit d s).2

variable {I : σ → Prop}

/-- A part of the items preserves what all of them preserve. -/
theorem Keeps.mono (hI : Keeps visit I ds) (hsub : as⊆ds) : Keeps visit I as :=
  fun d hd => hI d (hsub hd)

theorem Keeps.tail (hI : Keeps visit I (d::ds)) : Keeps visit I ds := hI.mono (List.subset_cons_self d ds)

/-- What every visit preserves, a traversal preserves. -/
theorem visitAll_keeps (hI : Keeps visit I ds) (h : I s) : I (visitAll visit ds s).2 := by
  induction ds generalizing s with
  | nil => exact h
  | cons d ds ih =>
    have hd : I (visit d s).2 := hI d List.mem_cons_self s h
    cases hs : (visit d s).1 with
    | true =>
      rw [visitAll_cons_stop hs]
      exact hd
    | false =>
      rw [visitAll_cons_go hs]
      exact ih hI.tail hd

/-- What every visit preserves, the nested traversal preserves. -/
theorem visitGroups_keeps (hI : Keeps visit I gs.flatten) (h : I s) : I (visitGroups visit gs s) := by
  induction gs generalizing s with
  | nil => exact h
  | cons g gs ih =>
    rw [List.flatten_cons] at hI
    have hg : I (visitAll visit g s).2 := visitAll_keeps (hI.mono (List.subset_append_left g _)) h
    exact ih (hI.mono (List.subset_append_right g _)) hg

/-- The rule of a traversal: `G` tells the state by the items visited so
far; a visit either keeps it for one more item or asks to stop in a state
where `S` holds. -/
theorem visitAll_rule {G : List δ → σ → Prop} {S : σ → Prop}
    (hgo : ∀ d∈ds,∀ pre s,G pre s → (visit d s).1=false → G (pre++[d]) (visit d s).2)
    (hstop : ∀ d∈ds,∀ pre s,G pre s → (visit d s).1=true → S (visit d s).2) (pre : List δ)
    (h : G pre s) :
    ((visitAll visit ds s).1=false → G (pre++ds) (visitAll visit ds s).2) ∧
      ((visitAll visit ds s).1=true → S (visitAll visit ds s).2) := by
  induction ds generalizing s pre with
  | nil =>
    rw [List.append_nil]
    exact ⟨fun _ => h,fun hs => absurd hs Bool.false_ne_true⟩
  | cons d ds ih =>
    have hd : d∈d::ds := List.mem_cons_self
    cases hs : (visit d s).1 with
    | true =>
      rw [visitAll_cons_stop hs]
      refine ⟨fun hf => ?_,fun _ => hstop d hd pre s h hs⟩
      rw [hs] at hf
      exact absurd hf.symm Bool.false_ne_true
    | false =>
      rw [visitAll_cons_go hs,List.append_cons]
      exact ih (fun e he => hgo e (List.mem_cons_of_mem d he))
        (fun e he => hstop e (List.mem_cons_of_mem d he)) (pre++[d]) (hgo d hd pre s h hs)

/-- The rule of a traversal that is told by the items still to come: `G` is
kept when one of them is visited, and when it is passed over. -/
theorem visitAll_rest {G : List δ → σ → Prop}
    (hvisit : ∀ d rest s,G (d::rest) s → G rest (visit d s).2)
    (hskip : ∀ d rest s,G (d::rest) s → G rest s) (h : G (ds++as) s) : G as (visitAll visit ds s).2 := by
  induction ds generalizing s with
  | nil => exact h
  | cons d ds ih =>
    have hd : G (ds++as) (visit d s).2 := hvisit d (ds++as) s h
    cases hs : (visit d s).1 with
    | true =>
      rw [visitAll_cons_stop hs]
      -- the items behind a request to stop are passed over
      have hrest : ∀ es : List δ,G (es++as) (visit d s).2 → G as (visit d s).2 := by
        intro es
        induction es with
        | nil => exact id
        | cons e es ihe => exact fun he => ihe (hskip e (es++as) _ he)
      exact hrest ds hd
    | false =>
      rw [visitAll_cons_go hs]
      exact ih hd

/-- The same of the nested loops. -/
theorem visitGroups_rest {G : List δ → σ → Prop}
    (hvisit : ∀ d rest s,G (d::rest) s → G rest (visit d s).2)
    (hskip : ∀ d rest s,G (d::rest) s → G rest s) (h : G gs.flatten s) : G [] (visitGroups visit gs s) := by
  induction gs generalizing s with
  | nil => exact h
  | cons g gs ih =>
    rw [List.flatten_cons] at h
    exact ih (visitAll_rest hvisit hskip h)

end Rules

section Simulation

variable {ρ : Type} {visit' : δ → ρ → Bool×ρ} {p : σ → ρ}

/-- A function of the state that every visit respects, a traversal respects. -/
theorem visitAll_map (hp : ∀ d s,visit' d (p s)=((visit d s).1,p (visit d s).2)) :
    visitAll visit' ds (p s)=((visitAll visit ds s).1,p (visitAll visit ds s).2) := by
  induction ds generalizing s with
  | nil => rfl
  | cons d ds ih =>
    have hd := hp d s
    cases hs : (visit d s).1 with
    | true =>
      rw [hs] at hd
      rw [visitAll_cons_stop hs,visitAll_cons_stop (congrArg Prod.fst hd),hd,hs]
    | false =>
      rw [hs] at hd
      rw [visitAll_cons_go hs,visitAll_cons_go (congrArg Prod.fst hd),hd,ih]

/-- A function of the state that every visit respects, the nested loops respect. -/
theorem visitGroups_map (hp : ∀ d s,visit' d (p s)=((visit d s).1,p (visit d s).2)) :
    visitGroups visit' gs (p s)=p (visitGroups visit gs s) := by
  induction gs generalizing s with
  | nil => rfl
  | cons g gs ih => rw [visitGroups,visitGroups,visitAll_map hp,ih]

end Simulation

section Groups

/-- Visiting the groups in turn, the first request to stop comes in `g`. -/
def FirstStopIn (visit : δ → σ → Bool×σ) (before : List (List δ)) (g : List δ) (s : σ) : Prop :=
  (visitAll visit before.flatten s).1=false ∧
    (visitAll visit g (visitAll visit before.flatten s).2).1=true

/-- The first request to stop comes in the same group for a function of the
state that every visit respects. -/
theorem firstStopIn_map {ρ : Type} {visit' : δ → ρ → Bool×ρ} {p : σ → ρ}
    (hp : ∀ d s,visit' d (p s)=((visit d s).1,p (visit d s).2)) :
    FirstStopIn visit' before g (p s) ↔ FirstStopIn visit before g s := by
  rw [FirstStopIn,FirstStopIn,visitAll_map hp,visitAll_map hp]

/-- Groups in a row are visited in a row. -/
theorem visitGroups_append :
    visitGroups visit (before++after) s=visitGroups visit after (visitGroups visit before s) := by
  induction before generalizing s with
  | nil => rfl
  | cons g gs ih => exact ih

/-- Without a request to stop the nested loops do what one loop does. -/
theorem visitGroups_of_go (h : (visitAll visit gs.flatten s).1=false) :
    visitGroups visit gs s=(visitAll visit gs.flatten s).2 := by
  induction gs generalizing s with
  | nil => rfl
  | cons g gs ih =>
    rw [List.flatten_cons] at h ⊢
    cases hg : (visitAll visit g s).1 with
    | true =>
      rw [visitAll_append_stop hg,hg] at h
      exact absurd h.symm Bool.false_ne_true
    | false =>
      rw [visitAll_append_go hg] at h ⊢
      exact ih h

/-- A request to stop, if there is one, first comes in some group. -/
theorem exists_firstStopIn (h : (visitAll visit gs.flatten s).1=true) :
    ∃ before g after,gs=before++g::after ∧ FirstStopIn visit before g s := by
  induction gs generalizing s with
  | nil => exact absurd h Bool.false_ne_true
  | cons g gs ih =>
    rw [List.flatten_cons] at h
    cases hg : (visitAll visit g s).1 with
    | true => exact ⟨[],g,gs,rfl,rfl,hg⟩
    | false =>
      rw [visitAll_append_go hg] at h
      obtain ⟨before,g',after,rfl,hb,hs⟩ := ih h
      refine ⟨g::before,g',after,rfl,?_,?_⟩
      · rw [List.flatten_cons,visitAll_append_go hg]
        exact hb
      · rw [List.flatten_cons,visitAll_append_go hg]
        exact hs

/-- One loop over all items ends where the first request to stop comes. -/
theorem visitAll_firstStopIn (h : FirstStopIn visit before g s) :
    visitAll visit (before++g::after).flatten s=
      visitAll visit g (visitAll visit before.flatten s).2 := by
  rw [List.flatten_append,List.flatten_cons,visitAll_append_go h.1,visitAll_append_stop h.2]

/-- The nested loops go on from there with the groups behind. -/
theorem visitGroups_firstStopIn (h : FirstStopIn visit before g s) :
    visitGroups visit (before++g::after) s=
      visitGroups visit after (visitAll visit (before++g::after).flatten s).2 := by
  rw [visitGroups_append,visitGroups_of_go h.1,visitAll_firstStopIn h]
  rfl

variable {τ : Type} {I : σ → Prop} {v : σ → τ}

/-- In any state of the invariant a visit of this item leaves the view of
the state as it is and does not ask to stop. -/
def Inert (visit : δ → σ → Bool×σ) (I : σ → Prop) (v : σ → τ) (d : δ) : Prop :=
  ∀ s,I s → (visit d s).1=false ∧ v (visit d s).2=v s

/-- A traversal of inert items leaves the view as it is. -/
theorem visitAll_inert (hI : Keeps visit I ds) (hd : ∀ d∈ds,Inert visit I v d) (h : I s) :
    (visitAll visit ds s).1=false ∧ v (visitAll visit ds s).2=v s := by
  induction ds generalizing s with
  | nil => exact ⟨rfl,rfl⟩
  | cons d ds ih =>
    obtain ⟨hgo,hview⟩ := hd d List.mem_cons_self s h
    have hrest := ih hI.tail (fun e hm => hd e (List.mem_cons_of_mem d hm)) (hI d List.mem_cons_self s h)
    rw [visitAll_cons_go hgo]
    exact ⟨hrest.1,hrest.2.trans hview⟩

/-- When behind the first request to stop all items are inert, the nested
loops do what one loop does, as far as the view shows. -/
theorem view_visitGroups (hI : Keeps visit I gs.flatten) (h : I s)
    (hbehind : ∀ before g after,gs=before++g::after → FirstStopIn visit before g s →
      ∀ d∈after.flatten,Inert visit I v d) :
    v (visitGroups visit gs s)=v (visitAll visit gs.flatten s).2 := by
  cases hs : (visitAll visit gs.flatten s).1 with
  | false => rw [visitGroups_of_go hs]
  | true =>
    obtain ⟨before,g,after,rfl,hfirst⟩ := exists_firstStopIn hs
    have hafter := hbehind before g after rfl hfirst
    have hinv : I (visitAll visit (before++g::after).flatten s).2 := visitAll_keeps hI h
    have hsub : after.flatten⊆(before++g::after).flatten := by
      rw [List.flatten_append,List.flatten_cons]
      exact fun d hd => List.mem_append_right _ (List.mem_append_right _ hd)
    obtain ⟨hgo,hview⟩ := visitAll_inert (hI.mono hsub) hafter hinv
    rw [visitGroups_firstStopIn hfirst,visitGroups_of_go hgo,hview]

end Groups

section Measure

variable {τ : Type} {I : σ → Prop} {v : σ → τ} {m : σ → ℕ}

/-- In any state of the invariant a visit of this item raises the measure. -/
def Raises (visit : δ → σ → Bool×σ) (I : σ → Prop) (m : σ → ℕ) (d : δ) : Prop :=
  ∀ s,I s → m s < m (visit d s).2

/-- When no visit lowers a measure, no traversal does. -/
theorem measure_le_visitAll (hm : ∀ d s,m s ≤ m (visit d s).2) : m s ≤ m (visitAll visit ds s).2 :=
  visitAll_keeps (I := fun t => m s ≤ m t) (fun d _ t ht => Nat.le_trans ht (hm d t)) (Nat.le_refl _)

/-- When no visit lowers a measure, the nested loops do not. -/
theorem measure_le_visitGroups (hm : ∀ d s,m s ≤ m (visit d s).2) : m s ≤ m (visitGroups visit gs s) :=
  visitGroups_keeps (I := fun t => m s ≤ m t) (fun d _ t ht => Nat.le_trans ht (hm d t)) (Nat.le_refl _)

/-- A traversal with an item that raises the measure raises it when all
other items are passed: nothing can stop the traversal before. -/
theorem measure_lt_visitAll (hI : Keeps visit I ds) (hm : ∀ d s,m s ≤ m (visit d s).2)
    (hd : ∀ d∈ds,Inert visit I v d ∨ Raises visit I m d) (hex : ∃ d∈ds,Raises visit I m d)
    (h : I s) : m s < m (visitAll visit ds s).2 := by
  induction ds generalizing s with
  | nil =>
    obtain ⟨d,hmem,-⟩ := hex
    exact absurd hmem List.not_mem_nil
  | cons d ds ih =>
    by_cases hraise : Raises visit I m d
    · have hlt := hraise s h
      cases hs : (visit d s).1 with
      | true =>
        rw [visitAll_cons_stop hs]
        exact hlt
      | false =>
        rw [visitAll_cons_go hs]
        exact Nat.lt_of_lt_of_le hlt (measure_le_visitAll hm)
    · have hgo := ((hd d List.mem_cons_self).resolve_right hraise s h).1
      rw [visitAll_cons_go hgo]
      refine Nat.lt_of_le_of_lt (hm d s)
        (ih hI.tail (fun e hmem => hd e (List.mem_cons_of_mem d hmem)) ?_ (hI d List.mem_cons_self s h))
      obtain ⟨e,hmem,he⟩ := hex
      rcases List.mem_cons.mp hmem with rfl|hmem
      · exact absurd he hraise
      · exact ⟨e,hmem,he⟩

/-- The same of the nested loops. -/
theorem measure_lt_visitGroups (hI : Keeps visit I gs.flatten) (hm : ∀ d s,m s ≤ m (visit d s).2)
    (hd : ∀ d∈gs.flatten,Inert visit I v d ∨ Raises visit I m d)
    (hex : ∃ d∈gs.flatten,Raises visit I m d) (h : I s) : m s < m (visitGroups visit gs s) := by
  induction gs generalizing s with
  | nil =>
    obtain ⟨d,hmem,-⟩ := hex
    exact absurd hmem List.not_mem_nil
  | cons g gs ih =>
    rw [List.flatten_cons] at hI
    have hgI : Keeps visit I g := hI.mono (List.subset_append_left g _)
    by_cases hin : ∃ d∈g,Raises visit I m d
    · have hlt := measure_lt_visitAll hgI hm (fun d hmem => hd d (List.mem_append_left _ hmem)) hin h
      exact Nat.lt_of_lt_of_le hlt (measure_le_visitGroups hm)
    · refine Nat.lt_of_le_of_lt (measure_le_visitAll hm)
        (ih (hI.mono (List.subset_append_right g _)) (fun d hmem => hd d (List.mem_append_right _ hmem)) ?_
          (visitAll_keeps hgI h))
      obtain ⟨d,hmem,he⟩ := hex
      rcases List.mem_append.mp hmem with hmem|hmem
      · exact absurd ⟨d,hmem,he⟩ hin
      · exact ⟨d,hmem,he⟩

end Measure

end UsbIo16.Traversal
