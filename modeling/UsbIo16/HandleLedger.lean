import Mathlib.Algebra.Order.Ring.Int
import Mathlib.Data.Finset.Basic
import Mathlib.Data.Int.Notation
import Mathlib.Data.List.Count
import Mathlib.Data.Multiset.AddSub
import Mathlib.Data.Multiset.UnionInter

/-!
# Ledgers of opened, used and closed resources

A run over some resource leaves a list of events, newest first. Replaying
the list yields the resources open after it, or nothing once an event broke
the protocol: opened twice, used or closed while not open. So a successful
replay says that no close and no use ever hit a resource that was not open,
and the counts of opens and closes follow from the set that is still open.
-/

namespace UsbIo16.HandleLedger

/-- What can happen to a resource. -/
inductive HandleEvent (H : Type*) where
  | opened (h : H)
  | used (h : H)
  | closed (h : H)
  deriving DecidableEq

section Replay

variable {H : Type*} [DecidableEq H] {log : List (HandleEvent H)} {live : Finset H} {h : H}

/-- One event after the events in `past`, which left `live` open. -/
def replay (past : List (HandleEvent H)) (live : Finset H) : HandleEvent H → Option (Finset H)
  | .opened h => if .opened h∈past then none else some (insert h live)
  | .used h => if h∈live then some live else none
  | .closed h => if h∈live then some (live.erase h) else none

/-- The resources open after the events (newest first), if every event
respected the protocol. -/
def openHandles : List (HandleEvent H) → Option (Finset H)
  | [] => some ∅
  | e::past => (openHandles past).bind fun live => replay past live e

/-- A resource never opened before is open after its opening. -/
theorem openHandles_opened (hl : openHandles log=some live) (hn : .opened h∉log) :
    openHandles (.opened h::log)=some (insert h live) := by
  simp only [openHandles,hl,Option.bind_some,replay,if_neg hn]

/-- An open resource may be used; the open ones stay the same. -/
theorem openHandles_used (hl : openHandles log=some live) (hm : h∈live) :
    openHandles (.used h::log)=some live := by
  simp only [openHandles,hl,Option.bind_some,replay,if_pos hm]

/-- An open resource may be closed and is not open afterwards. -/
theorem openHandles_closed (hl : openHandles log=some live) (hm : h∈live) :
    openHandles (.closed h::log)=some (live.erase h) := by
  simp only [openHandles,hl,Option.bind_some,replay,if_pos hm]

/-- A replay that succeeds has succeeded on the past, and its last event
was admitted there. -/
theorem openHandles_cons {e : HandleEvent H} (hl : openHandles (e::log)=some live) :
    ∃ before, openHandles log=some before ∧ replay log before e=some live :=
  Option.bind_eq_some_iff.mp hl

/-- A ledger that replays has replayed at every earlier moment. -/
theorem openHandles_suffix (late : List (HandleEvent H))
    (hl : openHandles (late++log)=some live) : ∃ before, openHandles log=some before := by
  induction late generalizing live with
  | nil => exact ⟨live,hl⟩
  | cons e late ih =>
    obtain ⟨before,hb,-⟩ := openHandles_cons hl
    exact ih hb

/-- Only what was opened can be open. -/
theorem opened_of_live (hl : openHandles log=some live) (hm : h∈live) : .opened h∈log := by
  induction log generalizing live with
  | nil =>
    cases hl
    exact absurd hm (Finset.notMem_empty h)
  | cons e log ih =>
    obtain ⟨before,hb,ha⟩ := openHandles_cons hl
    cases e with
    | opened g =>
      simp only [replay] at ha
      split at ha
      · cases ha
      · cases ha
        rcases Finset.mem_insert.mp hm with rfl|hm
        · exact List.mem_cons_self
        · exact List.mem_cons_of_mem _ (ih hb hm)
    | used g =>
      simp only [replay] at ha
      split at ha
      · cases ha
        exact List.mem_cons_of_mem _ (ih hb hm)
      · cases ha
    | closed g =>
      simp only [replay] at ha
      split at ha
      · cases ha
        exact List.mem_cons_of_mem _ (ih hb (Finset.mem_of_mem_erase hm))
      · cases ha

/-- Openings balance closings and what is still open, and nothing was
opened twice. The induction carries both counts together. -/
theorem counts (hl : openHandles log=some live) (h : H) :
    log.count (.opened h)=log.count (.closed h)+(if h∈live then 1 else 0) ∧
      log.count (.opened h)≤1 := by
  induction log generalizing live with
  | nil =>
    cases hl
    simp
  | cons e log ih =>
    obtain ⟨before,hb,ha⟩ := openHandles_cons hl
    obtain ⟨hc,ho⟩ := ih hb
    cases e with
    | opened g =>
      simp only [replay] at ha
      split at ha
      · cases ha
      · next hn =>
        cases ha
        by_cases hg : g=h
        · subst hg
          have hz : log.count (.opened g)=0 := List.count_eq_zero_of_not_mem hn
          have hf : g∉before := fun hm => hn (opened_of_live hb hm)
          simp [hz,hf] at hc ⊢
          omega
        · have hg' : h≠g := fun he => hg he.symm
          simpa [hg,hg',Finset.mem_insert] using ⟨hc,ho⟩
    | used g =>
      simp only [replay] at ha
      split at ha
      · cases ha
        simpa using ⟨hc,ho⟩
      · cases ha
    | closed g =>
      simp only [replay] at ha
      split at ha
      · next hm =>
        cases ha
        by_cases hg : g=h
        · subst hg
          simp [hm] at hc ⊢
          omega
        · have hg' : h≠g := fun he => hg he.symm
          simpa [hg,hg',Finset.mem_erase] using ⟨hc,ho⟩
      · cases ha

/-- Whatever was opened has been closed exactly once, unless it is still
open and has not been closed at all. -/
theorem closed_count (hl : openHandles log=some live) (ho : .opened h∈log) :
    log.count (.closed h)=if h∈live then 0 else 1 := by
  obtain ⟨hc,h1⟩ := counts hl h
  have hp : 0<log.count (.opened h) := List.count_pos_iff.mpr ho
  by_cases hm : h∈live
  · rw [if_pos hm] at hc ⊢
    omega
  · rw [if_neg hm] at hc ⊢
    omega

/-- What is open was opened and not closed. -/
theorem open_of_live (hl : openHandles log=some live) (hm : h∈live) : .opened h∈log ∧ .closed h∉log := by
  have ho := opened_of_live hl hm
  have hc := closed_count hl ho
  rw [if_pos hm] at hc
  exact ⟨ho,List.count_eq_zero.mp hc⟩

/-- A resource that is used or closed was open at that moment. -/
theorem open_of_event {late past : List (HandleEvent H)} {e : HandleEvent H}
    (hl : openHandles (late++e::past)=some live) (he : e=.used h ∨ e=.closed h) :
    .opened h∈past ∧ .closed h∉past := by
  obtain ⟨after,hafter⟩ := openHandles_suffix late hl
  obtain ⟨before,hbefore,hreplay⟩ := openHandles_cons hafter
  have hm : h∈before := by
    by_contra hn
    rcases he with rfl|rfl
    · rw [replay,if_neg hn] at hreplay
      cases hreplay
    · rw [replay,if_neg hn] at hreplay
      cases hreplay
  exact open_of_live hbefore hm

/-- With nothing left open, every resource opened was closed exactly once. -/
theorem closed_once (hl : openHandles log=some ∅) (ho : .opened h∈log) :
    log.count (.closed h)=1 := by
  simpa using closed_count hl ho

end Replay

/-- A ledger whose resources are numbered as they are opened: 1, 2, and so
on. The number names the opening, not the machine word the system gave out,
so closing an old opening again is never mistaken for closing a new one. -/
@[ext] structure Ledger where
  /-- Number of resources opened so far. -/
  issued : ℕ
  /-- All events, newest first. -/
  log : List (HandleEvent ℤ)
  /-- Only numbers that were given out have been opened. -/
  bounded : ∀ h,HandleEvent.opened h∈log → 1≤h ∧ h ≤ issued

namespace Ledger

/-- Before any event. -/
def empty : Ledger := ⟨0,[],by simp⟩

/-- The number the next opening gets. -/
def fresh (l : Ledger) : ℤ := (l.issued : ℤ)+1

/-- Open the next resource. -/
def openNext (l : Ledger) : Ledger where
  issued := l.issued+1
  log := .opened l.fresh::l.log
  bounded := by
    intro h hm
    rcases List.mem_cons.mp hm with he|hm
    · cases he
      simp only [fresh]
      omega
    · have hb := l.bounded h hm
      omega

/-- Use the resource with this number. -/
def use (l : Ledger) (h : ℤ) : Ledger where
  issued := l.issued
  log := .used h::l.log
  bounded := by
    intro g hm
    rcases List.mem_cons.mp hm with he|hm
    · cases he
    · exact l.bounded g hm

/-- Close the resource with this number. -/
def close (l : Ledger) (h : ℤ) : Ledger where
  issued := l.issued
  log := .closed h::l.log
  bounded := by
    intro g hm
    rcases List.mem_cons.mp hm with he|hm
    · cases he
    · exact l.bounded g hm

/-- Only an opening takes a number. -/
theorem fresh_openNext (l : Ledger) : l.openNext.fresh=l.fresh+1 := by
  simp only [fresh,openNext,Nat.cast_add,Nat.cast_one]

/-- The resources open now, if the protocol was respected so far. -/
def live (l : Ledger) : Option (Finset ℤ) := openHandles l.log

variable {l : Ledger} {S : Finset ℤ} {h : ℤ}

/-- The next number has never been opened. -/
theorem fresh_not_opened (l : Ledger) : .opened l.fresh∉l.log := by
  intro hm
  have hb := (l.bounded _ hm).2
  simp only [fresh] at hb
  omega

/-- The next number is not among the open ones. -/
theorem fresh_not_live (hl : l.live=some S) : l.fresh∉S :=
  fun hm => l.fresh_not_opened (opened_of_live hl hm)

/-- Open resources carry positive numbers, so neither NULL nor minus one is open. -/
theorem pos_of_live (hl : l.live=some S) (hm : h∈S) : 1≤h :=
  (l.bounded h (opened_of_live hl hm)).1

theorem fresh_pos (l : Ledger) : 1≤l.fresh := by
  simp only [fresh]
  omega

theorem live_openNext (hl : l.live=some S) : l.openNext.live=some (insert l.fresh S) :=
  openHandles_opened hl l.fresh_not_opened

theorem live_use (hl : l.live=some S) (hm : h∈S) : (l.use h).live=some S :=
  openHandles_used hl hm

theorem live_close (hl : l.live=some S) (hm : h∈S) : (l.close h).live=some (S.erase h) :=
  openHandles_closed hl hm

end Ledger

section Slots

variable {K H : Type*} {slot slot' : K → H} {S : Multiset K} {live : Finset H} {k : K} {h : H}

/-- The resources in `live` are stored in the slots of the keys `S`, each of
them in exactly one. -/
structure Stored (slot : K → H) (S : Multiset K) (live : Finset H) : Prop where
  /-- No key is there twice. -/
  nodup : S.Nodup
  /-- The resources are those in the slots. -/
  covers : ∀ h,h∈live ↔ ∃ k∈S,slot k=h
  /-- No resource is in two slots. -/
  apart : ∀ k∈S,∀ l∈S,slot k=slot l → k=l

/-- No key stores nothing. -/
theorem stored_zero (slot : K → H) : Stored slot 0 ∅ where
  nodup := Multiset.nodup_zero
  covers h := iff_of_false (Finset.notMem_empty h) fun ⟨_,hk,_⟩ => Multiset.notMem_zero _ hk
  apart k hk := absurd hk (Multiset.notMem_zero k)

/-- The slot of a key holds one of the resources. -/
theorem Stored.mem (hs : Stored slot S live) (hk : k∈S) : slot k∈live := (hs.covers _).mpr ⟨k,hk,rfl⟩

/-- Without keys nothing is stored. -/
theorem Stored.empty (hs : Stored slot 0 live) : live=∅ := by
  refine Finset.eq_empty_of_forall_notMem fun h hm => ?_
  obtain ⟨k,hk,-⟩ := (hs.covers h).mp hm
  exact Multiset.notMem_zero k hk

variable [DecidableEq H]

/-- A resource is taken out together with its key; the slots of the other
keys stay. -/
theorem Stored.remove [DecidableEq K] (hs : Stored slot S live) (hk : k∈S) (hsame : ∀ l∈S,l≠k → slot' l=slot l) :
    Stored slot' (S.erase k) (live.erase (slot k)) := by
  have hmem : ∀ l,l∈S.erase k ↔ l≠k ∧ l∈S := fun l => hs.nodup.mem_erase_iff
  refine ⟨hs.nodup.erase k,?_,?_⟩
  · intro h
    rw [Finset.mem_erase,hs.covers]
    constructor
    · rintro ⟨hne,l,hl,rfl⟩
      have hlk : l≠k := fun he => hne (he ▸ rfl)
      exact ⟨l,(hmem l).mpr ⟨hlk,hl⟩,hsame l hl hlk⟩
    · rintro ⟨l,hl,rfl⟩
      obtain ⟨hlk,hl⟩ := (hmem l).mp hl
      rw [hsame l hl hlk]
      exact ⟨fun he => hlk (hs.apart l hl k hk he),l,hl,rfl⟩
  · intro l hl m hm he
    obtain ⟨hlk,hl⟩ := (hmem l).mp hl
    obtain ⟨hmk,hm⟩ := (hmem m).mp hm
    rw [hsame l hl hlk,hsame m hm hmk] at he
    exact hs.apart l hl m hm he

/-- A new resource is put into the slot of a new key; the slots of the other
keys stay. -/
theorem Stored.add (hs : Stored slot S live) (hk : k∉S) (hh : h∉live) (hslot : slot' k=h)
    (hsame : ∀ l∈S,slot' l=slot l) : Stored slot' (k::ₘS) (insert h live) := by
  have hother : ∀ l∈S,slot' l≠h := by
    intro l hl he
    rw [hsame l hl] at he
    exact hh (he ▸ hs.mem hl)
  refine ⟨Multiset.nodup_cons.mpr ⟨hk,hs.nodup⟩,?_,?_⟩
  · intro g
    rw [Finset.mem_insert,hs.covers]
    constructor
    · rintro (rfl|⟨l,hl,rfl⟩)
      · exact ⟨k,Multiset.mem_cons_self k S,hslot⟩
      · exact ⟨l,Multiset.mem_cons_of_mem hl,hsame l hl⟩
    · rintro ⟨l,hl,rfl⟩
      rcases Multiset.mem_cons.mp hl with rfl|hl
      · exact .inl hslot
      · exact .inr ⟨l,hl,(hsame l hl).symm⟩
  · intro l hl m hm he
    rcases Multiset.mem_cons.mp hl with rfl|hlS
    · rcases Multiset.mem_cons.mp hm with rfl|hmS
      · rfl
      · exact absurd (he.symm.trans hslot) (hother m hmS)
    · rcases Multiset.mem_cons.mp hm with rfl|hmS
      · exact absurd (he.trans hslot) (hother l hlS)
      · rw [hsame l hlS,hsame m hmS] at he
        exact hs.apart l hlS m hmS he

end Slots

end UsbIo16.HandleLedger
