import Mathlib.Data.Finset.Lattice.Lemmas
import UsbIo16.DeviceVisits

/-!
# The reference count of the OS X manager

The OS X backend keeps one manager open in a global and counts its users:
the running enumeration and every handle it gave out. The count is raised
at each hand-over and dropped at each close and at the end of an
enumeration, also when a callback closes handles in between. Enumerations
are taken apart into their steps here, so that the count can be followed
through every state in between.
-/

namespace UsbIo16.ManagerCount

open HandleLedger Hiddata OsxBackend Traversal DeviceVisits

section Counts

variable {D : Type} {L : Finset Ptr} {m : ℕ} {w : OsxWorld D} {u : Ptr}

/-- The manager in use: the one in the global, if any. -/
def inUse (g_hidmgr : Ptr) : Finset Ptr := if g_hidmgr=0 then ∅ else {g_hidmgr}

/-- The manager has `m` users: the count says so, the manager is there as
long as the number is positive, and apart from managers `L` that were never
opened it is the only one not yet released, and the only open one. -/
structure Counts (L : Finset Ptr) (m : ℕ) (w : OsxWorld D) : Prop where
  /-- The count is the number of users. -/
  count : w.g_hidmgr_open_count=m
  /-- There is a manager exactly when it has users. -/
  manager : w.g_hidmgr≠0 ↔ 0 < m
  /-- It is the only one not released. -/
  managers : w.managers.live=some (inUse w.g_hidmgr∪L)
  /-- It is the only one open. -/
  opened : openHandles w.opened=some (inUse w.g_hidmgr)
  /-- It is none of the others. -/
  other : w.g_hidmgr∉L
  /-- Only managers that were created are opened. -/
  known : ∀ h,.opened h∈w.opened → .opened h∈w.managers.log

/-- A process that has not used the library yet. -/
theorem counts_start (owner : Ptr → Ptr) (e : D) : Counts ∅ 0 ⟨0,0,Ledger.empty,[],owner,e⟩ where
  count := rfl
  manager := iff_of_false (not_not.mpr rfl) (Nat.lt_irrefl 0)
  managers := rfl
  opened := rfl
  other := Finset.notMem_empty _
  known _ h := absurd h List.not_mem_nil

/-- The environment may change. -/
theorem Counts.query (h : Counts L m w) (e : D) : Counts L m {w with env := e} :=
  ⟨h.count,h.manager,h.managers,h.opened,h.other,h.known⟩

/-- With users, the manager in use is the one in the global. -/
theorem Counts.inUse_eq (h : Counts L m w) (hm : 0 < m) : inUse w.g_hidmgr={w.g_hidmgr} :=
  if_neg (h.manager.mpr hm)

/-- Without users, there is no manager. -/
theorem Counts.no_manager (h : Counts L 0 w) : w.g_hidmgr=0 := by
  by_contra hne
  exact absurd (h.manager.mp hne) (Nat.lt_irrefl 0)

/-- A transfer under the manager in use. -/
theorem Counts.use (h : Counts L m w) (hm : 0 < m) (hu : w.owner u=w.g_hidmgr) (e : D) :
    Counts L m {w with opened := .used (w.owner u)::w.opened,env := e} where
  count := h.count
  manager := h.manager
  managers := h.managers
  opened := by
    refine openHandles_used h.opened ?_
    rw [h.inUse_eq hm,hu]
    exact Finset.mem_singleton_self _
  other := h.other
  known g hg := by
    rcases List.mem_cons.mp hg with he|hg
    · cases he
    · exact h.known g hg

/-- One more user. -/
theorem Counts.retained (h : Counts L m w) (hm : 0 < m) : Counts L (m+1) (addRef w) where
  count := by
    have hc : (addRef w).g_hidmgr_open_count=w.g_hidmgr_open_count+1 := rfl
    rw [hc,h.count]
    push_cast
    rfl
  manager := iff_of_true (h.manager.mpr hm) (Nat.succ_pos m)
  managers := h.managers
  opened := h.opened
  other := h.other
  known := h.known

/-- A user less, but not the last one: only the count changes. -/
theorem hidmgrDeref_shared (h : Counts L (m+1) w) (hm : 0 < m) :
    hidmgrDeref w={w with g_hidmgr_open_count := w.g_hidmgr_open_count-1} := by
  have hc : ¬w.g_hidmgr_open_count-1≤0 := by
    rw [h.count]
    push_cast
    omega
  unfold hidmgrDeref
  rw [if_pos (h.manager.mpr (Nat.succ_pos m))]
  exact if_neg hc

/-- The last user: the manager is closed and released. -/
theorem hidmgrDeref_last (h : Counts L 1 w) :
    hidmgrDeref w={w with
      g_hidmgr_open_count := w.g_hidmgr_open_count-1
      opened := .closed w.g_hidmgr::w.opened
      managers := w.managers.close w.g_hidmgr
      g_hidmgr := 0} := by
  have hc : w.g_hidmgr_open_count-1≤0 := by
    rw [h.count]
    rfl
  unfold hidmgrDeref
  rw [if_pos (h.manager.mpr Nat.one_pos)]
  exact if_pos hc

/-- One user less. -/
theorem Counts.deref (h : Counts L (m+1) w) : Counts L m (hidmgrDeref w) := by
  have hpos : 0 < m+1 := Nat.succ_pos m
  have huse := h.inUse_eq hpos
  rcases Nat.eq_zero_or_pos m with rfl|hm
  · -- the last user: both ledgers lose the manager
    have hmem : w.g_hidmgr∈inUse w.g_hidmgr := by
      rw [huse]
      exact Finset.mem_singleton_self _
    have hnone : inUse 0=∅ := rfl
    rw [hidmgrDeref_last h]
    refine ⟨?_,iff_of_false (not_not.mpr rfl) (Nat.lt_irrefl 0),?_,?_,?_,?_⟩
    · simp only [h.count]
      rfl
    · have hlive := Ledger.live_close h.managers (Finset.mem_union_left L hmem)
      rw [hlive,huse,hnone,Finset.empty_union,Finset.singleton_union,Finset.erase_insert h.other]
    · rw [openHandles_closed h.opened hmem,huse,hnone,Finset.erase_singleton]
    · intro h0
      have hp := Ledger.pos_of_live h.managers (Finset.mem_union_right _ h0)
      have hz : ¬(1 : ℤ)≤0 := by decide
      exact hz hp
    · intro g hg
      rcases List.mem_cons.mp hg with he|hg
      · cases he
      · exact List.mem_cons_of_mem _ (h.known g hg)
  · rw [hidmgrDeref_shared h hm]
    refine ⟨?_,iff_of_true (h.manager.mpr hpos) hm,h.managers,h.opened,h.other,h.known⟩
    simp only [h.count]
    push_cast
    omega

/-- Dropping a user that is not the last leaves the manager in place. -/
theorem hidmgrDeref_manager (h : Counts L (m+1) w) (hm : 0 < m) :
    (hidmgrDeref w).g_hidmgr=w.g_hidmgr := by
  rw [hidmgrDeref_shared h hm]

/-- Dropping a user does not change where device references come from. -/
theorem hidmgrDeref_owner (w : OsxWorld D) : (hidmgrDeref w).owner=w.owner := by
  unfold hidmgrDeref
  dsimp only
  split
  · split <;> rfl
  · rfl

end Counts

section Enumeration

variable {D : Type} {env : OsxEnv D} {L : Finset Ptr} {w : OsxWorld D} {devices : List OsxDevice}

/-- An enumeration that reaches its loop has a new manager with one user,
which owns the references of the device set. -/
theorem managerDevices_ok (hok : (managerDevices env w).1=.ok devices) :
    ∃ e,(managerDevices env w).2=
      {w with
        managers := w.managers.openNext
        opened := .opened w.managers.fresh::w.opened
        g_hidmgr := w.managers.fresh
        g_hidmgr_open_count := 1
        owner := fun u => if u∈devices.map OsxDevice.ref then w.managers.fresh else w.owner u
        env := e} := by
  have hends := managerDevices_ends env w
  generalize managerDevices env w=r at hok hends ⊢
  cases hends with
  | uncreated hcreate => cases hok
  | refused hcreate hopen => cases hok
  | empty hcreate hopen hset => cases hok
  | ready hcreate hopen hset hsome =>
    cases hok
    exact ⟨_,rfl⟩

/-- From a state without users it leads to a state with one. -/
theorem Counts.enter (h : Counts L 0 w) (hok : (managerDevices env w).1=.ok devices) :
    Counts L 1 (managerDevices env w).2 := by
  obtain ⟨e,hw⟩ := managerDevices_ok hok
  have hfresh : (1 : ℤ)≤w.managers.fresh := w.managers.fresh_pos
  have hne : w.managers.fresh≠0 := by
    intro h0
    rw [h0] at hfresh
    exact absurd hfresh (by decide)
  have hnone : inUse w.g_hidmgr=∅ := if_pos h.no_manager
  have hone : inUse w.managers.fresh={w.managers.fresh} := if_neg hne
  have hlive := h.managers
  have hopen := h.opened
  rw [hnone,Finset.empty_union] at hlive
  rw [hnone] at hopen
  rw [hw]
  refine ⟨rfl,iff_of_true hne Nat.one_pos,?_,?_,Ledger.fresh_not_live hlive,?_⟩
  · rw [Ledger.live_openNext hlive,hone,Finset.singleton_union]
  · rw [openHandles_opened hopen fun hm => w.managers.fresh_not_opened (h.known _ hm),hone]
    rfl
  · intro g hg
    rcases List.mem_cons.mp hg with he|hg
    · cases he
      exact List.mem_cons_self
    · exact List.mem_cons_of_mem _ (h.known g hg)

end Enumeration

section Users

variable {D : Type} {env : OsxEnv D} {target : Target} {L : Finset Ptr} {n : ℕ} {S : Multiset Ptr}
  {w : OsxWorld D} {u : Ptr} {devices : List OsxDevice}

/-- The handles `S` are out and not yet closed, and `n` enumerations are
running: together they are the users of the manager the handles came from. -/
structure Users (L : Finset Ptr) (n : ℕ) (S : Multiset Ptr) (w : OsxWorld D) : Prop where
  /-- They are the users. -/
  counts : Counts L (S.card+n) w
  /-- Every handle is a reference of the manager in use. -/
  held : ∀ u∈S,u≠0 ∧ u≠-1 ∧ w.owner u=w.g_hidmgr

/-- A process that has not used the library yet. -/
theorem users_start (owner : Ptr → Ptr) (e : D) : Users ∅ 0 0 ⟨0,0,Ledger.empty,[],owner,e⟩ :=
  ⟨counts_start owner e,fun _ h => absurd h (Multiset.notMem_zero _)⟩

/-- A handle that is out makes the number of users positive. -/
theorem users_pos (hu : u∈S) : 0<S.card+n :=
  Nat.add_pos_left (Multiset.card_pos_iff_exists_mem.mpr ⟨u,hu⟩) n

/-- An enumeration that reaches its loop becomes a user, and owns the references of the set. -/
theorem Users.enter (h : Users L 0 0 w) (hok : (managerDevices env w).1=.ok devices) :
    Users L 1 0 (managerDevices env w).2 ∧
      ∀ dev∈devices,(managerDevices env w).2.owner dev.ref=(managerDevices env w).2.g_hidmgr := by
  refine ⟨⟨h.counts.enter hok,fun _ hu => absurd hu (Multiset.notMem_zero _)⟩,?_⟩
  intro dev hdev
  obtain ⟨e,hw⟩ := managerDevices_ok hok
  rw [hw]
  exact if_pos (List.mem_map_of_mem hdev)

/-- A handle given out becomes a user. -/
theorem Users.hand (h : Users L 1 S w) (hu : u≠0 ∧ u≠-1 ∧ w.owner u=w.g_hidmgr) :
    Users L 1 (u::ₘS) (addRef w) where
  counts := by
    have hc : (u::ₘS).card+1=S.card+1+1 := by rw [Multiset.card_cons]
    rw [hc]
    exact h.counts.retained (Nat.succ_pos _)
  held v hv := by
    rcases Multiset.mem_cons.mp hv with rfl|hv
    · exact hu
    · exact h.held v hv

/-- A user other than a handle that is out is dropped. -/
theorem Users.drop {k : ℕ} (h : Counts L (k+1) w) (hk : k=S.card+n)
    (hheld : ∀ u∈S,u≠0 ∧ u≠-1 ∧ w.owner u=w.g_hidmgr) : Users L n S (hidmgrDeref w) where
  counts := hk ▸ h.deref
  held u hu := by
    obtain ⟨h0,h1,ho⟩ := hheld u hu
    have hpos : 0<k := by
      rw [hk]
      exact users_pos hu
    rw [hidmgrDeref_owner,hidmgrDeref_manager h hpos]
    exact ⟨h0,h1,ho⟩

/-- A handle that is out is closed. -/
theorem Users.close (h : Users L n S w) (hu : u∈S) :
    Users L n (S.erase u) (OsxBackend.usbhidCloseDevice u w) := by
  have hc : S.card+n=(S.erase u).card+n+1 := by
    rw [←Multiset.card_erase_add_one hu]
    omega
  have hclose : OsxBackend.usbhidCloseDevice u w=hidmgrDeref w := if_pos (h.held u hu).1
  rw [hclose]
  refine Users.drop (hc ▸ h.counts) rfl ?_
  exact fun v hv => h.held v (Multiset.mem_of_mem_erase hv)

/-- An enumeration ends. -/
theorem Users.leave (h : Users L 1 S w) : Users L 0 S (hidmgrDeref w) := Users.drop h.counts rfl h.held

/-- A handle that is out is used. -/
theorem Users.use (h : Users L n S w) (hu : u∈S) {v : OsxWorld D} (huse : HandleUse (osxHid env target) u w v) :
    Users L n S v := by
  obtain ⟨e,rfl|rfl⟩ := osx_use huse
  · exact ⟨h.counts.query e,h.held⟩
  · exact ⟨h.counts.use (users_pos hu) (h.held u hu).2.2 e,h.held⟩

/-- The owner of the handles makes a step. -/
theorem Users.owner {v : OsxWorld D} {T : Multiset Ptr} (h : Users L n S w)
    (hstep : OwnerStep (osxHid env target) (w,S) (v,T)) : Users L n T v := by
  cases hstep with
  | close hu => exact h.close hu
  | use hu huse => exact h.use hu huse

/-- While an enumeration is running, its manager and the origin of its
device references stay what they are. -/
theorem Users.owner_frame {v : OsxWorld D} {T : Multiset Ptr} (h : Users L 1 S w)
    (hstep : OwnerStep (osxHid env target) (w,S) (v,T)) : v.g_hidmgr=w.g_hidmgr ∧ v.owner=w.owner := by
  cases hstep with
  | @close _ _ u hu =>
    have hc : S.card+1=(S.erase u).card+1+1 := by rw [Multiset.card_erase_add_one hu]
    have hclose : (osxHid env target).usbhidCloseDevice u w=hidmgrDeref w := if_pos (h.held u hu).1
    rw [hclose]
    exact ⟨hidmgrDeref_manager (hc ▸ h.counts) (Nat.succ_pos _),hidmgrDeref_owner w⟩
  | use hu huse =>
    obtain ⟨e,rfl|rfl⟩ := osx_use huse
    · exact ⟨rfl,rfl⟩
    · exact ⟨rfl,rfl⟩

end Users

section Sessions

variable {D : Type} (env : OsxEnv D) (target : Target) (vendor product : ℤ)

/-- Where a process is in its use of the backend. -/
inductive Phase where
  /-- No enumeration is running. -/
  | idle
  /-- The device loop has these devices before it. -/
  | looping (rest : List OsxDevice)
  /-- The callback is running; the loop has these devices before it. -/
  | calling (rest : List OsxDevice)

/-- Number of enumerations running. -/
def Phase.running : Phase → ℕ
  | idle => 0
  | looping _ => 1
  | calling _ => 1

/-- The devices the loop has before it. -/
def Phase.rest : Phase → List OsxDevice
  | idle => []
  | looping rest => rest
  | calling rest => rest

/-- Whether code of the owners of handles runs: between enumerations and
inside the callback. -/
def Phase.Owners : Phase → Prop
  | idle => True
  | looping _ => False
  | calling _ => True

/-- A moment of a run: the world, the phase, and the handles given out and
not yet closed. -/
structure Session (D : Type) where
  world : OsxWorld D
  phase : Phase
  handles : Multiset Ptr

/-- The steps of a run: one for each thing an enumeration does, and those of
the owners of handles. A new enumeration starts when no handle is out. -/
inductive Step : Session D → Session D → Prop
  | enter {w : OsxWorld D} {devices : List OsxDevice} (hok : (managerDevices env w).1=.ok devices) :
      Step ⟨w,.idle,0⟩ ⟨(managerDevices env w).2,.looping devices,0⟩
  | skip {w : OsxWorld D} {dev : OsxDevice} {rest : List OsxDevice} {S : Multiset Ptr}
      (ho : offered target vendor product dev=false) :
      Step ⟨w,.looping (dev::rest),S⟩ ⟨w,.looping rest,S⟩
  | hand {w : OsxWorld D} {dev : OsxDevice} {rest : List OsxDevice} {S : Multiset Ptr}
      (ho : offered target vendor product dev=true) :
      Step ⟨w,.looping (dev::rest),S⟩ ⟨addRef w,.calling rest,dev.ref::ₘS⟩
  | goOn {w : OsxWorld D} {rest : List OsxDevice} {S : Multiset Ptr} :
      Step ⟨w,.calling rest,S⟩ ⟨w,.looping rest,S⟩
  | stop {w : OsxWorld D} {rest : List OsxDevice} {S : Multiset Ptr} :
      Step ⟨w,.calling rest,S⟩ ⟨w,.looping [],S⟩
  | leave {w : OsxWorld D} {S : Multiset Ptr} : Step ⟨w,.looping [],S⟩ ⟨hidmgrDeref w,.idle,S⟩
  | owner {w v : OsxWorld D} {p : Phase} {S T : Multiset Ptr} (hp : p.Owners)
      (h : OwnerStep (osxHid env target) (w,S) (v,T)) : Step ⟨w,p,S⟩ ⟨v,p,T⟩

variable {env target vendor product} {L : Finset Ptr} {s t : Session D}

/-- The handles out and the running enumeration are the users of the
manager, and the devices still to come are its references. -/
structure SessionInv (L : Finset Ptr) (s : Session D) : Prop where
  users : Users L s.phase.running s.handles s.world
  pending : ∀ dev∈s.phase.rest,s.world.owner dev.ref=s.world.g_hidmgr

/-- A device that is handed over has a proper reference. -/
theorem offered_ref {dev : OsxDevice} (ho : offered target vendor product dev=true) :
    dev.ref≠0 ∧ dev.ref≠-1 := by
  refine ⟨?_,dev.isAddress⟩
  intro h0
  rw [offered,h0] at ho
  simp at ho

/-- Every step keeps the invariant. -/
theorem SessionInv.step (h : SessionInv L s) (hstep : Step env target vendor product s t) :
    SessionInv L t := by
  cases hstep with
  | enter hok =>
    obtain ⟨hu,hd⟩ := h.users.enter hok
    exact ⟨hu,hd⟩
  | skip ho => exact ⟨h.users,fun dev hdev => h.pending dev (List.mem_cons_of_mem _ hdev)⟩
  | hand ho =>
    obtain ⟨h0,h1⟩ := offered_ref ho
    exact ⟨h.users.hand ⟨h0,h1,h.pending _ List.mem_cons_self⟩,
      fun dev hdev => h.pending dev (List.mem_cons_of_mem _ hdev)⟩
  | goOn => exact ⟨h.users,h.pending⟩
  | stop => exact ⟨h.users,fun _ hdev => absurd hdev List.not_mem_nil⟩
  | leave => exact ⟨h.users.leave,fun _ hdev => absurd hdev List.not_mem_nil⟩
  | @owner w v p S T hp howner =>
    cases p with
    | idle => exact ⟨h.users.owner howner,fun _ hdev => absurd hdev List.not_mem_nil⟩
    | looping rest => exact absurd hp id
    | calling rest =>
      obtain ⟨hmgr,hown⟩ := h.users.owner_frame howner
      refine ⟨h.users.owner howner,fun dev hdev => ?_⟩
      rw [hmgr,hown]
      exact h.pending dev hdev

/-- A run keeps the invariant. -/
theorem SessionInv.run (h : SessionInv L s)
    (hrun : Relation.ReflTransGen (Step env target vendor product) s t) : SessionInv L t := by
  induction hrun with
  | refl => exact h
  | tail _ hstep ih => exact ih.step hstep

/-- A process that has not used the library yet. -/
def initial (owner : Ptr → Ptr) (e : D) : Session D := ⟨⟨0,0,Ledger.empty,[],owner,e⟩,.idle,0⟩

/-- The states of the runs of a process. -/
def Reachable (env : OsxEnv D) (target : Target) (vendor product : ℤ) (s : Session D) : Prop :=
  ∃ owner e,Relation.ReflTransGen (Step env target vendor product) (initial owner e) s

/-- The invariant holds throughout every run. -/
theorem Reachable.inv (h : Reachable env target vendor product s) : SessionInv ∅ s := by
  obtain ⟨owner,e,hrun⟩ := h
  have hstart : SessionInv ∅ (initial owner e) :=
    ⟨users_start owner e,fun _ hdev => absurd hdev List.not_mem_nil⟩
  exact hstart.run hrun

/-- Between enumerations a handle that is out may be closed. -/
theorem Reachable.close {w : OsxWorld D} {S : Multiset Ptr} {u : Ptr}
    (h : Reachable env target vendor product ⟨w,.idle,S⟩) (hu : u∈S) :
    Reachable env target vendor product ⟨OsxBackend.usbhidCloseDevice u w,.idle,S.erase u⟩ := by
  obtain ⟨owner,e,hrun⟩ := h
  exact ⟨owner,e,hrun.tail (.owner trivial (.close hu))⟩

section Enumerations

variable {α : Type} {J : α → Multiset Ptr → Prop} {usbhidEnumFunc : EnumFunc α (OsxWorld D)}

/-- What a callback does with its handles is a run inside the enumeration. -/
theorem callback_run {w v : OsxWorld D} {S T : Multiset Ptr} (rest : List OsxDevice)
    (h : Relation.ReflTransGen (OwnerStep (osxHid env target)) (w,S) (v,T)) :
    Relation.ReflTransGen (Step env target vendor product) ⟨w,.calling rest,S⟩ ⟨v,.calling rest,T⟩ := by
  have hlift : ∀ {x y : OsxWorld D×Multiset Ptr},
      Relation.ReflTransGen (OwnerStep (osxHid env target)) x y →
        Relation.ReflTransGen (Step env target vendor product) ⟨x.1,.calling rest,x.2⟩
          ⟨y.1,.calling rest,y.2⟩ := by
    intro x y hxy
    induction hxy with
    | refl => exact .refl
    | tail _ hstep ih => exact ih.tail (.owner trivial hstep)
  exact hlift h

/-- The device loop is a run. -/
theorem loop_run (hf : Abides (osxHid env target) J usbhidEnumFunc) (devices : List OsxDevice) (c : α)
    (w : OsxWorld D) {S : Multiset Ptr} (hJ : J c S) :
    ∃ T,J (visitAll (osxVisit target vendor product usbhidEnumFunc) devices (c,w)).2.1 T ∧
      Relation.ReflTransGen (Step env target vendor product) ⟨w,.looping devices,S⟩
        ⟨(visitAll (osxVisit target vendor product usbhidEnumFunc) devices (c,w)).2.2,.looping [],T⟩ := by
  induction devices generalizing c w S with
  | nil => exact ⟨S,hJ,.refl⟩
  | cons dev rest ih =>
    cases ho : offered target vendor product dev with
    | false =>
      have hv : osxVisit target vendor product usbhidEnumFunc dev (c,w)=_ := osxVisit_foreign ho
      obtain ⟨T,hT,hrun⟩ := ih c w hJ
      rw [visitAll_cons_go (congrArg Prod.fst hv),hv]
      exact ⟨T,hT,.head (.skip ho) hrun⟩
    | true =>
      obtain ⟨T,hT,hcall⟩ := hf dev.ref c (addRef w) S hJ
      have hv : osxVisit target vendor product usbhidEnumFunc dev (c,w)=_ := osxVisit_offered ho rfl
      have hhand : Relation.ReflTransGen (Step env target vendor product) ⟨w,.looping (dev::rest),S⟩
          ⟨(usbhidEnumFunc dev.ref c (addRef w)).world,.calling rest,T⟩ :=
        .head (.hand ho) (callback_run rest hcall)
      by_cases ha : (usbhidEnumFunc dev.ref c (addRef w)).answer=0
      · rw [visitAll_cons_stop ((congrArg Prod.fst hv).trans (decide_eq_true ha)),hv]
        exact ⟨T,hT,hhand.tail .stop⟩
      · obtain ⟨T',hT',hrun⟩ := ih _ (usbhidEnumFunc dev.ref c (addRef w)).world hT
        rw [visitAll_cons_go ((congrArg Prod.fst hv).trans (decide_eq_false ha)),hv]
        exact ⟨T',hT',(hhand.tail .goOn).trans hrun⟩

/-- A whole enumeration is a run. -/
theorem enumDevices_run (hf : Abides (osxHid env target) J usbhidEnumFunc) {c : α} (hJ : J c 0)
    {w : OsxWorld D} {devices : List OsxDevice} (hok : (managerDevices env w).1=.ok devices) :
    ∃ T,J (usbhidEnumDevices env target vendor product c usbhidEnumFunc w).context T ∧
      Relation.ReflTransGen (Step env target vendor product) ⟨w,.idle,0⟩
        ⟨(usbhidEnumDevices env target vendor product c usbhidEnumFunc w).world,.idle,T⟩ := by
  obtain ⟨T,hT,hrun⟩ := loop_run hf devices c (managerDevices env w).2 hJ
  rw [osx_enumDevices_ok hok c rfl]
  exact ⟨T,hT,.head (.enter hok) (hrun.tail .leave)⟩

end Enumerations

/-- The law of the count in a state of a run. -/
structure CountLaw (s : Session D) : Prop where
  /-- The count is the number of handles out, plus one while an enumeration is running. -/
  count : s.world.g_hidmgr_open_count=s.handles.card+s.phase.running
  /-- There is a manager exactly when that number is positive. -/
  manager : s.world.g_hidmgr≠0 ↔ 0 < s.handles.card+s.phase.running
  /-- Every handle out was given out by this manager. -/
  handedOut : ∀ u∈s.handles,s.world.owner u=s.world.g_hidmgr
  /-- It is open, and no other manager is. -/
  opened : openHandles s.world.opened=some (inUse s.world.g_hidmgr)
  /-- It is not released, and every other manager is. -/
  created : s.world.managers.live=some (inUse s.world.g_hidmgr)
  /-- A manager that was opened has been closed exactly once, unless it is in use. -/
  closedOnce : ∀ mgr,.opened mgr∈s.world.opened →
    s.world.opened.count (.closed mgr)=if mgr∈inUse s.world.g_hidmgr then 0 else 1
  /-- A manager that was created has been released exactly once, unless it is in use. -/
  releasedOnce : ∀ mgr,.opened mgr∈s.world.managers.log →
    s.world.managers.log.count (.closed mgr)=if mgr∈inUse s.world.g_hidmgr then 0 else 1

/-- The invariant says all of the law. -/
theorem SessionInv.countLaw (h : SessionInv ∅ s) : CountLaw s := by
  have hcreated : s.world.managers.live=some (inUse s.world.g_hidmgr) := by
    rw [h.users.counts.managers,Finset.union_empty]
  exact {
    count := by
      rw [h.users.counts.count]
      push_cast
      rfl
    manager := h.users.counts.manager
    handedOut := fun u hu => (h.users.held u hu).2.2
    opened := h.users.counts.opened
    created := hcreated
    closedOnce := fun _ ho => closed_count h.users.counts.opened ho
    releasedOnce := fun _ ho => closed_count hcreated ho}

/-- In every state of every run the count obeys its law; and between
enumerations with no handle out, an enumeration that reaches its loop is
such a run, whatever the devices and whatever the callback keeps or closes. -/
theorem manager_count_law (h : Reachable env target vendor product s) :
    CountLaw s ∧
      ∀ (α : Type) (J : α → Multiset Ptr → Prop) (usbhidEnumFunc : EnumFunc α (OsxWorld D)) (c : α)
        (devices : List OsxDevice),
        s.phase=.idle → s.handles=0 → Abides (osxHid env target) J usbhidEnumFunc → J c 0 →
          (managerDevices env s.world).1=.ok devices →
            ∃ T,J (usbhidEnumDevices env target vendor product c usbhidEnumFunc s.world).context T ∧
              Reachable env target vendor product
                ⟨(usbhidEnumDevices env target vendor product c usbhidEnumFunc s.world).world,.idle,T⟩ := by
  refine ⟨h.inv.countLaw,?_⟩
  intro α J usbhidEnumFunc c devices hidle hnone hf hJ hok
  obtain ⟨owner,e,hrun⟩ := h
  obtain ⟨T,hT,henum⟩ : ∃ T,J _ T ∧
      Relation.ReflTransGen (Step env target vendor product) ⟨s.world,.idle,0⟩ _ :=
    enumDevices_run hf hJ hok
  have hs : s=⟨s.world,.idle,0⟩ := by
    cases s
    simp only at hidle hnone
    rw [hidle,hnone]
  exact ⟨T,hT,owner,e,(hs ▸ hrun).trans henum⟩

end Sessions

section OneDevice

/-- A system with one USB device, at reference 7, which answers as a card
does. -/
def oneDeviceEnv : OsxEnv Unit where
  createManager s := (true,s)
  openManager s := (true,s)
  copyDevices s := ([⟨7,some ['U','S','B'],some 0x16c0,some 0x05df,by decide⟩],s)
  stringProperty _ key s := (some (if key=.manufacturer then "www.dcttech.com".toList else "USBIO".toList),s)
  setReport _ _ _ _ s := (kIOReturnSuccess,s)
  getReport _ _ _ _ s := ((kIOReturnSuccess,[0x41#8,0x42#8,0x43#8,0x44#8,0#8,0#8,0#8,0#8]),s)

/-- A callback that keeps every handle it gets. -/
def keepEvery : EnumFunc (List Ptr) (OsxWorld Unit) := fun u c w => ⟨1,u::c,w⟩

end OneDevice

section ThreeCards

/-- A system with three cards, at references 7, 9 and 10, and a device of
another vendor at reference 8. -/
def threeCardEnv : OsxEnv Unit where
  createManager s := (true,s)
  openManager s := (true,s)
  copyDevices s :=
    ([⟨7,some ['U','S','B'],some 0x16c0,some 0x05df,by decide⟩,⟨8,some ['U','S','B'],some 0x1234,some 0x05df,by decide⟩,
      ⟨9,some ['U','S','B'],some 0x16c0,some 0x05df,by decide⟩,⟨10,some ['U','S','B'],some 0x16c0,some 0x05df,by decide⟩],s)
  stringProperty _ key s := (some (if key=.manufacturer then "www.dcttech.com".toList else "USBIO".toList),s)
  setReport _ _ _ _ s := (kIOReturnSuccess,s)
  getReport _ _ _ _ s := ((kIOReturnSuccess,[0x41#8,0x42#8,0x43#8,0x44#8,0#8,0#8,0#8,0#8]),s)

/-- A callback that keeps at most two handles: for a third one it closes the
last one it kept. -/
def keepTwo : EnumFunc (List Ptr) (OsxWorld Unit) := fun u c w =>
  match c with
  | a::b::rest => ⟨1,u::b::rest,OsxBackend.usbhidCloseDevice a w⟩
  | c => ⟨1,u::c,w⟩

/-- The handles in the list are the ones kept. -/
def Holding (c : List Ptr) (S : Multiset Ptr) : Prop := S=c

theorem keepTwo_abides (target : Target) : Abides (osxHid threeCardEnv target) Holding keepTwo := by
  rintro u c w S rfl
  match c with
  | [] => exact ⟨_,rfl,.refl⟩
  | [a] => exact ⟨_,rfl,.refl⟩
  | a::b::rest =>
    have ha : a∈(u::ₘ(↑(a::b::rest) : Multiset Ptr)) := Multiset.mem_cons_of_mem List.mem_cons_self
    have herase : (u::ₘ(↑(a::b::rest) : Multiset Ptr)).erase a=↑(u::b::rest) := by
      have hswap : (u::ₘ(↑(a::b::rest) : Multiset Ptr))=a::ₘ↑(u::b::rest) := Multiset.cons_swap u a ↑(b::rest)
      rw [hswap,Multiset.erase_cons_head]
    exact ⟨_,herase,.single (.close ha)⟩

/-- The states the law is read at: inside the first call of the callback,
after the enumeration, after each of the two closes, and after a second
enumeration. -/
theorem manager_count_law_threeCards :
    let target : Target := ⟨true,fun _ => 0#8⟩
    let start := (initial id () : Session Unit)
    let found := managerDevices threeCardEnv start.world
    let r := usbhidEnumDevices threeCardEnv target 0x16c0 0x05df [] keepTwo start.world
    let one := OsxBackend.usbhidCloseDevice 7 r.world
    let idle := OsxBackend.usbhidCloseDevice 10 one
    let again := usbhidEnumDevices threeCardEnv target 0x16c0 0x05df [] keepTwo idle
    (∃ rest,CountLaw ⟨addRef found.2,.calling rest,{7}⟩ ∧ rest.map OsxDevice.ref=[8,9,10]) ∧
      CountLaw ⟨r.world,.idle,{10,7}⟩ ∧ CountLaw ⟨one,.idle,{10}⟩ ∧ CountLaw ⟨idle,.idle,0⟩ ∧
      CountLaw ⟨again.world,.idle,{10,7}⟩ ∧
      [(addRef found.2).g_hidmgr_open_count,r.world.g_hidmgr_open_count,one.g_hidmgr_open_count,
        idle.g_hidmgr_open_count,again.world.g_hidmgr_open_count]=[2,2,1,0,2] ∧
      [r.world.g_hidmgr,one.g_hidmgr,idle.g_hidmgr,again.world.g_hidmgr]=[1,1,0,2] := by
  intro target start found r one idle again
  have hstart : Reachable threeCardEnv target 0x16c0 0x05df start := ⟨id,(),.refl⟩
  obtain ⟨-,hruns⟩ := manager_count_law hstart
  -- inside the callback
  have hcalling : ∃ rest,Reachable threeCardEnv target 0x16c0 0x05df ⟨addRef found.2,.calling rest,{7}⟩ ∧
      rest.map OsxDevice.ref=[8,9,10] := by
    have henter : Step threeCardEnv target 0x16c0 0x05df start ⟨found.2,.looping _,0⟩ := .enter rfl
    exact ⟨_,⟨id,(),(Relation.ReflTransGen.single henter).tail (.hand rfl)⟩,rfl⟩
  -- after the enumeration, and after each close
  obtain ⟨T,hT,hr⟩ := hruns (List Ptr) Holding keepTwo [] _ rfl rfl (keepTwo_abides target) rfl rfl
  have hkept : r.context=[10,7] := by decide +kernel
  have hr2 : Reachable threeCardEnv target 0x16c0 0x05df ⟨r.world,.idle,{10,7}⟩ := by
    have hT' : T={10,7} := hT.trans (congrArg _ hkept)
    exact hT' ▸ hr
  have hone : Reachable threeCardEnv target 0x16c0 0x05df ⟨one,.idle,{10}⟩ := hr2.close (by decide)
  have hidle : Reachable threeCardEnv target 0x16c0 0x05df ⟨idle,.idle,0⟩ := hone.close (by decide)
  -- the second enumeration starts without a manager
  obtain ⟨hlaw,hruns'⟩ := manager_count_law hidle
  obtain ⟨T',hT',hagain⟩ := hruns' (List Ptr) Holding keepTwo [] _ rfl rfl (keepTwo_abides target) rfl rfl
  have hkept' : again.context=[10,7] := by decide +kernel
  have hagain2 : Reachable threeCardEnv target 0x16c0 0x05df ⟨again.world,.idle,{10,7}⟩ := by
    have hT2 : T'={10,7} := hT'.trans (congrArg _ hkept')
    exact hT2 ▸ hagain
  obtain ⟨rest,hin,hrest⟩ := hcalling
  refine ⟨⟨rest,(manager_count_law hin).1,hrest⟩,(manager_count_law hr2).1,(manager_count_law hone).1,hlaw,
    (manager_count_law hagain2).1,?_,?_⟩
  · decide +kernel
  · decide +kernel

end ThreeCards

end UsbIo16.ManagerCount
