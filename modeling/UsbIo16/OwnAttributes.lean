import UsbIo16.CarriedReads
import UsbIo16.StopRequests

/-!
# Filtering by the attributes of the device

The Windows enumeration keeps the attribute struct across its rounds and does
not look at the result of `HidD_GetAttributes`. So an interface whose
attributes cannot be read is filtered by those of an earlier one, or by what
the struct held before the loop.
-/

namespace UsbIo16.OwnAttributes

open CarriedReads Hiddata MswinBackend Traversal DeviceVisits StopRequests

variable {D α : Type} {env : MswinEnv D} {vendor product : ℤ}
  {usbhidEnumFunc : EnumFunc α (MswinWorld D)} {w : MswinWorld D}

/-- The loop looks at the interfaces it can describe and open, and reads
their attributes. -/
def attributeReader : Reader HidInterface (BitVec 16×BitVec 16) String where
  looks iface := decide (Described iface ∧ iface.canOpen=true)
  reads := HidInterface.attributes
  name := HidInterface.DevicePath

/-- The test for vendor and product. -/
def wanted (vendor product : ℤ) (a : BitVec 16×BitVec 16) : Bool := decide (Wanted vendor product a)

/-- What the attribute struct of an enumeration holds before the loop. -/
def staleOf (env : MswinEnv D) (w : MswinWorld D) : BitVec 16×BitVec 16 :=
  match (env.classDevs w.env).1 with
  | none => (0#16,0#16)
  | some devs => devs.stale

/-- The enumeration hands over exactly the interfaces that were opened and
whose own attributes are the ones looked for, in order and once each. -/
def FiltersByOwn (env : MswinEnv D) (vendor product : ℤ) (context : α)
    (usbhidEnumFunc : EnumFunc α (MswinWorld D)) (w : MswinWorld D) : Prop :=
  (MswinBackend.usbhidEnumDevices env vendor product (context,[]) (mswinRecorded usbhidEnumFunc)
      w).context.2.map Call.device=
    (interfacesOf env w).filterMap (mswinEligible vendor product)

/-- An eligible interface is one whose own attributes are wanted. -/
theorem mswinEligible_eq_own :
    mswinEligible vendor product=attributeReader.own (wanted vendor product) := by
  funext iface
  rw [mswinEligible,Reader.own]
  cases ha : iface.attributes with
  | none =>
    have hr : attributeReader.reads iface=none := ha
    rw [hr]
    exact (if_neg fun h => Bool.false_ne_true h.2).symm
  | some a =>
    have hr : attributeReader.reads iface=some a := ha
    rw [hr,Option.bind_some,Option.any_some]
    refine if_congr ?_ rfl rfl
    rw [attributeReader,wanted,decide_eq_true_iff,decide_eq_true_iff]
    exact and_assoc.symm

/-- A round with a callback that does not ask to stop goes on; it calls the
callback exactly for an interface it selects. -/
theorem mswinVisit_turn (hgo : ∀ u c v,(usbhidEnumFunc u c v).answer≠0) (iface : HidInterface)
    (s : MswinRound (α×List (Call String)) D) :
    (mswinVisit vendor product (mswinRecorded usbhidEnumFunc) iface s).1=false ∧
      (mswinVisit vendor product (mswinRecorded usbhidEnumFunc) iface s).2.deviceAttributes=
        attributeReader.after s.deviceAttributes iface ∧
      (mswinVisit vendor product (mswinRecorded usbhidEnumFunc) iface s).2.context.2.map Call.device=
        s.context.2.map Call.device++
          attributeReader.selected (wanted vendor product) s.deviceAttributes [iface] := by
  by_cases hopen : Described iface ∧ iface.canOpen=true
  · have hlooks : attributeReader.looks iface=true := decide_eq_true hopen
    have hafter : attributeReader.after s.deviceAttributes iface=attributesSeen iface s := if_pos hlooks
    rw [Reader.selected,hafter]
    by_cases hw : Wanted vendor product (attributesSeen iface s)
    · have hpath : (openedInterface iface s).path (handleFor s)=iface.DevicePath :=
        Function.update_self _ _ _
      have hsel : attributeReader.looks iface=true ∧ wanted vendor product (attributesSeen iface s)=true :=
        ⟨hlooks,decide_eq_true hw⟩
      rw [mswinVisit_wanted hopen.1 hopen.2 hw rfl,if_pos hsel]
      refine ⟨decide_eq_false (hgo _ _ _),rfl,?_⟩
      simp only [mswinRecorded,recorded,List.map_append,List.map_cons,List.map_nil,hpath]
      rfl
    · have hsel : ¬(attributeReader.looks iface=true ∧ wanted vendor product (attributesSeen iface s)=true) :=
        fun h => hw (of_decide_eq_true h.2)
      rw [mswinVisit_foreign hopen.1 hopen.2 hw,if_neg hsel]
      exact ⟨rfl,rfl,(List.append_nil _).symm⟩
  · have hlooks : ¬attributeReader.looks iface=true := fun h => hopen (of_decide_eq_true h)
    have hafter : attributeReader.after s.deviceAttributes iface=s.deviceAttributes := if_neg hlooks
    rw [Reader.selected,if_neg fun h => hlooks h.1,hafter,mswinVisit_closed hopen]
    exact ⟨rfl,rfl,(List.append_nil _).symm⟩

/-- All rounds: the callback is called for the interfaces selected, in order. -/
theorem mswin_selected (hgo : ∀ u c v,(usbhidEnumFunc u c v).answer≠0) (ifaces : List HidInterface)
    (s : MswinRound (α×List (Call String)) D) :
    (visitAll (mswinVisit vendor product (mswinRecorded usbhidEnumFunc)) ifaces s).2.context.2.map Call.device=
      s.context.2.map Call.device++
        attributeReader.selected (wanted vendor product) s.deviceAttributes ifaces := by
  induction ifaces generalizing s with
  | nil => exact (List.append_nil _).symm
  | cons iface ifaces ih =>
    obtain ⟨hs,hattr,hcalls⟩ :
        (mswinVisit vendor product (mswinRecorded usbhidEnumFunc) iface s).1=false ∧ _ ∧ _ :=
      mswinVisit_turn hgo iface s
    rw [visitAll_cons_go hs,ih,hcalls,hattr,List.append_assoc]
    exact congrArg _ Reader.selected_cons.symm

/-- The enumeration filters each interface by its own attributes exactly when
no interface that is opened and whose attributes cannot be read comes at a
time when the attributes last read, or what the struct held before the loop,
are the ones looked for. -/
theorem filtersByOwn_iff (context : α) (hgo : ∀ u c v,(usbhidEnumFunc u c v).answer≠0) :
    FiltersByOwn env vendor product context usbhidEnumFunc w ↔
      attributeReader.Separate (wanted vendor product) (staleOf env w) (interfacesOf env w) := by
  rw [FiltersByOwn,mswinEligible_eq_own,←Reader.selected_eq_own_iff]
  cases hdevs : (env.classDevs w.env).1 with
  | none =>
    have hnone : interfacesOf env w=[] := by rw [interfacesOf,hdevs]
    rw [mswin_enumDevices_none hdevs,hnone]
    exact iff_of_true rfl rfl
  | some devs =>
    have hsome : interfacesOf env w=devs.interfaces := by rw [interfacesOf,hdevs]
    have hstale : staleOf env w=devs.stale := by rw [staleOf,hdevs]
    rw [mswin_enumDevices_some hdevs _ rfl,hsome,hstale]
    exact Eq.congr_left (mswin_selected hgo devs.interfaces (firstRound devs.stale (context,[]) _))

/-- A system with these interfaces, every struct cleared before the loop. -/
def interfaceEnv (interfaces : List HidInterface) : MswinEnv Unit where
  classDevs s := (some ⟨(0#16,0#16),interfaces⟩,s)
  manufacturer _ s := (none,s)
  product _ s := (none,s)
  setFeature _ _ s := (true,s)
  getFeature _ _ _ s := (none,s)

/-- An interface that opens, with these attributes. -/
def interfaceWith (path : String) (attributes : Option (BitVec 16×BitVec 16)) : HidInterface :=
  ⟨path,10,true,true,true,attributes⟩

/-- A process that has opened nothing. -/
def idleWorld : MswinWorld Unit := ⟨HandleLedger.Ledger.empty,fun _ => "",()⟩

/-- A callback that keeps every device. -/
def keepAll : EnumFunc Unit (MswinWorld Unit) := fun _ c w => ⟨1,c,w⟩

/-- An interface that cannot be read, in front of a board, is passed. -/
theorem filtersByOwn_iff_before :
    FiltersByOwn (interfaceEnv [interfaceWith "mute" none,interfaceWith "board" (some (0x16C0#16,0x05DF#16))])
      0x16C0 0x05DF () keepAll idleWorld := by
  have hgo : ∀ u c v,(keepAll u c v).answer≠0 := fun _ _ _ => one_ne_zero
  refine (filtersByOwn_iff () hgo).mpr ?_
  rw [←Reader.selected_eq_own_iff]
  rfl

/-- Behind a board it is taken for another one. -/
theorem filtersByOwn_fails_behind :
    ¬FiltersByOwn
      (interfaceEnv [interfaceWith "board" (some (0x16C0#16,0x05DF#16)),interfaceWith "mute" none])
      0x16C0 0x05DF () keepAll idleWorld := by
  intro h
  have hcalls : (MswinBackend.usbhidEnumDevices
      (interfaceEnv [interfaceWith "board" (some (0x16C0#16,0x05DF#16)),interfaceWith "mute" none])
      0x16C0 0x05DF ((),[]) (mswinRecorded keepAll) idleWorld).context.2.map Call.device=["board","mute"] := rfl
  have hown : [interfaceWith "board" (some (0x16C0#16,0x05DF#16)),interfaceWith "mute" none].filterMap
      (mswinEligible 0x16C0 0x05DF)=["board"] := rfl
  rw [FiltersByOwn,hcalls] at h
  exact absurd (h.trans hown) (by decide)

end UsbIo16.OwnAttributes
