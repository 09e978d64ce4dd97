import Mathlib.Data.Finset.Card
import UsbIo16.ManagerCount

/-!
# What the exits of the OS X enumeration give back

A program enumerates again and again, each time with no handle open, and its
callbacks keep or close the handles they get. Each call should leave exactly
one manager for the handles still open, none without, and a failing call
should leave everything as it was. Two of the error exits do not: they return
behind the creation of a manager without releasing it.
-/

namespace UsbIo16.ManagerExits

open HandleLedger Hiddata OsxBackend DeviceVisits ManagerCount

section Calls

variable {D : Type}

/-- One call of the enumeration: the world before, the value returned, the
world after, and the handles the callback has left open. -/
structure Enumerated (D : Type) where
  before : OsxWorld D
  err : ℤ
  after : OsxWorld D
  kept : Multiset Ptr

/-- What a call should give back. -/
structure GivesBack (k : Enumerated D) : Prop where
  /-- There is one manager neither closed nor released when handles are open, and none otherwise. -/
  live : ∃ M : Finset Ptr,k.after.managers.live=some M ∧ openHandles k.after.opened=some M ∧
    M.card=if k.kept=0 then 0 else 1
  /-- A call that fails leaves the live managers and the two globals as they were. -/
  untouched : k.err≠0 → k.after.managers.live=k.before.managers.live ∧
    openHandles k.after.opened=openHandles k.before.opened ∧
    k.after.g_hidmgr=k.before.g_hidmgr ∧ k.after.g_hidmgr_open_count=k.before.g_hidmgr_open_count

/-- The environment lets a call take no exit that leaks: no manager can be
created, or it can be opened and has devices. -/
def NothingLeaks (env : OsxEnv D) (w : OsxWorld D) : Prop :=
  (env.createManager w.env).1=true →
    (env.openManager (env.createManager w.env).2).1=true ∧
      (env.copyDevices (env.openManager (env.createManager w.env).2).2).1≠[]

/-- The runs of a program from its start: the calls of the enumeration made,
the world and the handles now open. A call starts when no handle is open, its
callback has its handles in its context, and between calls handles are used
and closed. -/
inductive Run (env : OsxEnv D) (target : Target) : List (Enumerated D) → OsxWorld D → Multiset Ptr → Prop
  | start (owner : Ptr → Ptr) (e : D) : Run env target [] ⟨0,0,Ledger.empty,[],owner,e⟩ 0
  | owner {ks : List (Enumerated D)} {w v : OsxWorld D} {S T : Multiset Ptr} (h : Run env target ks w S)
      (hstep : OwnerStep (osxHid env target) (w,S) (v,T)) : Run env target ks v T
  | enumerate {ks : List (Enumerated D)} {w : OsxWorld D} (h : Run env target ks w 0) {α : Type}
      {held : α → Multiset Ptr} {usbhidEnumFunc : EnumFunc α (OsxWorld D)}
      (hf : Abides (osxHid env target) (fun c S => S=held c) usbhidEnumFunc) {c : α} (hc : held c=0)
      (vendor product : ℤ) {r : EnumReply α (OsxWorld D)}
      (hr : usbhidEnumDevices env target vendor product c usbhidEnumFunc w=r) :
      Run env target (ks++[⟨w,r.err,r.world,held r.context⟩]) r.world (held r.context)

end Calls

section Exits

variable {D : Type} {env : OsxEnv D} {target : Target} {w : OsxWorld D} {S : Multiset Ptr}

/-- Between calls, what the users of the manager are is what should be live. -/
theorem users_live (h : Users ∅ 0 S w) :
    w.managers.live=some (inUse w.g_hidmgr) ∧ openHandles w.opened=some (inUse w.g_hidmgr) ∧
      (inUse w.g_hidmgr).card=if S=0 then 0 else 1 := by
  have hlive := h.counts.managers
  rw [Finset.union_empty] at hlive
  refine ⟨hlive,h.counts.opened,?_⟩
  by_cases hS : S=0
  · subst hS
    have hnone : inUse w.g_hidmgr=∅ := if_pos h.counts.no_manager
    rw [if_pos rfl,hnone,Finset.card_empty]
  · have hpos : 0<S.card+0 := Nat.add_pos_left (Multiset.card_pos.mpr hS) 0
    rw [if_neg hS,h.counts.inUse_eq hpos,Finset.card_singleton]

section Call

variable {α : Type} {held : α → Multiset Ptr} {usbhidEnumFunc : EnumFunc α (OsxWorld D)} {c : α}
  {vendor product : ℤ} {r : EnumReply α (OsxWorld D)}

/-- A call that leaks nothing gives back what it took, and leaves the handles
kept as the users of its manager. -/
theorem call_givesBack (h : Users ∅ 0 0 w)
    (hf : Abides (osxHid env target) (fun c S => S=held c) usbhidEnumFunc) (hc : held c=0)
    (hr : usbhidEnumDevices env target vendor product c usbhidEnumFunc w=r)
    (hok : NothingLeaks env w) :
    GivesBack ⟨w,r.err,r.world,held r.context⟩ ∧ Users ∅ 0 (held r.context) r.world := by
  have hlive : ∀ {v : OsxWorld D} {T : Multiset Ptr},Users ∅ 0 T v →
      ∃ M : Finset Ptr,v.managers.live=some M ∧ openHandles v.opened=some M ∧ M.card=if T=0 then 0 else 1 :=
    fun hv => ⟨_,users_live hv⟩
  have hends := managerDevices_ends env w
  generalize hm : managerDevices env w=x at hends
  cases hends with
  | uncreated hcreate =>
    rw [osx_enumDevices_error (congrArg Prod.fst hm),hm] at hr
    subst hr
    have hu : Users ∅ 0 (held c) {w with env := (env.createManager w.env).2} := by
      rw [hc]
      exact ⟨h.counts.query _,h.held⟩
    exact ⟨⟨hlive hu,fun _ => ⟨rfl,rfl,rfl,rfl⟩⟩,hu⟩
  | refused hcreate hopen => exact absurd ((hok hcreate).1.symm.trans hopen) Bool.true_eq_false.mp
  | empty hcreate hopen hset => exact absurd hset (hok hcreate).2
  | ready hcreate hopen hset hsome =>
    obtain ⟨T,rfl,hrun⟩ : ∃ T,T=held (usbhidEnumDevices env target vendor product c usbhidEnumFunc w).context ∧
        Relation.ReflTransGen (Step env target vendor product) ⟨w,.idle,0⟩ _ :=
      enumDevices_run hf hc.symm (congrArg Prod.fst hm)
    have hinv : SessionInv ∅ ⟨w,.idle,0⟩ := ⟨h,fun _ hdev => absurd hdev List.not_mem_nil⟩
    have hu := (hinv.run hrun).users
    have herr : (usbhidEnumDevices env target vendor product c usbhidEnumFunc w).err=0 := by
      rw [osx_enumDevices_ok (congrArg Prod.fst hm) c rfl]
    rw [hr] at hu herr
    exact ⟨⟨hlive hu,fun hne => absurd herr hne⟩,hu⟩

/-- A manager that was created and not released is live. -/
theorem live_openNext_card {L : Ledger} {M : Finset Ptr} (h : L.live=some M) {N : Finset Ptr}
    (hN : L.openNext.live=some N) : N.card≠0 := by
  rw [Ledger.live_openNext h] at hN
  obtain rfl := Option.some.inj hN
  rw [Finset.card_ne_zero]
  exact ⟨_,Finset.mem_insert_self _ _⟩

/-- A call that takes one of the two other exits leaves a manager behind. -/
theorem call_leaks (h : Users ∅ 0 0 w) (hc : held c=0)
    (hr : usbhidEnumDevices env target vendor product c usbhidEnumFunc w=r)
    (hleak : ¬NothingLeaks env w) : ¬GivesBack ⟨w,r.err,r.world,held r.context⟩ := by
  intro hback
  obtain ⟨M,hM,-,hcard⟩ := hback.live
  have hlive := (users_live h).1
  have hends := managerDevices_ends env w
  generalize hm : managerDevices env w=x at hends
  cases hends with
  | uncreated hcreate => exact hleak fun hyes => absurd (hyes.symm.trans hcreate) Bool.true_eq_false.mp
  | refused hcreate hopen =>
    rw [osx_enumDevices_error (congrArg Prod.fst hm),hm] at hr
    subst hr
    rw [if_pos hc] at hcard
    exact live_openNext_card hlive hM hcard
  | empty hcreate hopen hset =>
    rw [osx_enumDevices_error (congrArg Prod.fst hm),hm] at hr
    subst hr
    rw [if_pos hc] at hcard
    exact live_openNext_card hlive hM hcard
  | ready hcreate hopen hset hsome => exact hleak fun _ => ⟨hopen,hset ▸ hsome⟩

end Call

/-- As long as no call leaks, the handles open are the users of the manager. -/
theorem run_users {ks : List (Enumerated D)} (h : Run env target ks w S)
    (hok : ∀ k∈ks,NothingLeaks env k.before) : Users ∅ 0 S w ∧ ∀ k∈ks,GivesBack k := by
  induction h with
  | start owner e => exact ⟨users_start owner e,fun k hk => absurd hk List.not_mem_nil⟩
  | owner h hstep ih =>
    obtain ⟨hu,hback⟩ := ih hok
    exact ⟨hu.owner hstep,hback⟩
  | enumerate h hf hc vendor product hr ih =>
    obtain ⟨hu,hback⟩ := ih fun k hk => hok k (List.mem_append_left _ hk)
    obtain ⟨hlast,hu'⟩ := call_givesBack hu hf hc hr
      (hok _ (List.mem_append_right _ (List.mem_singleton_self _)))
    refine ⟨hu',fun k hk => ?_⟩
    rcases List.mem_append.mp hk with hk|hk
    · exact hback k hk
    · exact List.mem_singleton.mp hk ▸ hlast

/-- In every run, every call gives back what it took exactly when no call
meets a manager that cannot be opened or has no devices. -/
theorem run_givesBack_iff {ks : List (Enumerated D)} (h : Run env target ks w S) :
    (∀ k∈ks,GivesBack k) ↔ ∀ k∈ks,NothingLeaks env k.before := by
  refine ⟨fun hback => ?_,fun hok => (run_users h hok).2⟩
  induction h with
  | start owner e => exact fun k hk => absurd hk List.not_mem_nil
  | owner h hstep ih => exact ih hback
  | enumerate h hf hc vendor product hr ih =>
    -- the calls before leak nothing, so the last one starts without a manager
    have hbefore := ih fun k hk => hback k (List.mem_append_left _ hk)
    have hlast := hback _ (List.mem_append_right _ (List.mem_singleton_self _))
    intro k hk
    rcases List.mem_append.mp hk with hk|hk
    · exact hbefore k hk
    · obtain rfl := List.mem_singleton.mp hk
      by_contra hleak
      exact call_leaks (run_users h hbefore).1 hc hr hleak hlast

end Exits

section OneCall

/-- A system without any HID device, whose manager may not even be opened. -/
def brokenEnv (opens : Bool) : OsxEnv Unit where
  createManager s := (true,s)
  openManager s := (opens,s)
  copyDevices s := ([],s)
  stringProperty _ _ s := (none,s)
  setReport _ _ _ _ s := (kIOReturnSuccess,s)
  getReport _ _ _ _ s := ((kIOReturnSuccess,[]),s)

/-- The first call of a program whose callback keeps every handle. -/
def firstCall (env : OsxEnv Unit) : Enumerated Unit :=
  let r := usbhidEnumDevices env ⟨true,fun _ => 0#8⟩ 0x16c0 0x05df [] keepEvery (initial id ()).world
  ⟨(initial id ()).world,r.err,r.world,r.context⟩

/-- That call alone is a run, since such a callback keeps its handles in its context. -/
theorem run_firstCall (env : OsxEnv Unit) :
    Run env ⟨true,fun _ => 0#8⟩ [firstCall env] (firstCall env).after (firstCall env).kept := by
  have hf : Abides (osxHid env ⟨true,fun _ => 0#8⟩) (fun (c : List Ptr) S => S=(c : Multiset Ptr)) keepEvery := by
    rintro u c w S rfl
    exact ⟨_,rfl,.refl⟩
  exact (Run.start id ()).enumerate hf rfl 0x16c0 0x05df rfl

/-- On a system with one card the call gives back what it took. -/
theorem run_givesBack_iff_oneDevice : GivesBack (firstCall oneDeviceEnv) := by
  have hok : ∀ k∈[firstCall oneDeviceEnv],NothingLeaks oneDeviceEnv k.before :=
    fun k _ _ => ⟨rfl,List.cons_ne_nil _ _⟩
  exact (run_givesBack_iff (run_firstCall oneDeviceEnv)).mpr hok _ (List.mem_singleton_self _)

/-- A manager that cannot be opened, or has no devices, is left behind. -/
theorem firstCall_leaks (opens : Bool) : ¬GivesBack (firstCall (brokenEnv opens)) := by
  refine call_leaks (users_start id ()) rfl rfl fun hok => ?_
  exact (hok rfl).2 rfl

/-- So not every run gives back what its calls took. -/
theorem run_keeps_managers :
    (Run (brokenEnv false) ⟨true,fun _ => 0#8⟩ [firstCall (brokenEnv false)] (firstCall (brokenEnv false)).after
        (firstCall (brokenEnv false)).kept ∧ ¬GivesBack (firstCall (brokenEnv false))) ∧
      Run (brokenEnv true) ⟨true,fun _ => 0#8⟩ [firstCall (brokenEnv true)] (firstCall (brokenEnv true)).after
        (firstCall (brokenEnv true)).kept ∧ ¬GivesBack (firstCall (brokenEnv true)) :=
  ⟨⟨run_firstCall _,firstCall_leaks false⟩,run_firstCall _,firstCall_leaks true⟩

end OneCall

end UsbIo16.ManagerExits
