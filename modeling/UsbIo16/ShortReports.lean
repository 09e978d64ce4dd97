import UsbIo16.Backends
import UsbIo16.IoInterface

/-!
# Short reports

A read of report zero must succeed exactly when the device delivers all
eight payload bytes. The backends that report the length received tell the
library how much came; the Windows backend leaves the length variable as
the caller initialised it, so there a short report passes for a full one.
-/

namespace UsbIo16.ShortReports

open ByteBuffer HandleLedger Hiddata LibusbBackend MswinBackend OsxBackend Backends IoInterface

/-- The payload the device behind a backend delivers on the request for
report zero with room for eight bytes, absent when the transfer fails. -/
def delivered (dev : Ptr) : Running → Option (List Byte)
  | .libusb env w => (env.controlIn (usbDevHandle w dev) (getSetup 0) 8 w.env).1.map (List.take 8)
  | .mswin env w => (env.getFeature dev 0#8 9 w.env).1.map (List.take 8)
  | .osx env w =>
    if (received env w dev 0 9).1=kIOReturnSuccess then some ((received env w dev 0 9).2.take 8) else none

section Meaning

variable {W : Type}

/-- What a read of report zero must say about the delivered payload: zero
exactly for eight bytes, which are then stored behind the report id; else a
negative value and an unchanged array; and a length that counts the payload. -/
structure ReadsExactly (payload raw_data : Option (List Byte)) (g : ReportReply W)
    (r : ReadRepReply W) : Prop where
  /-- Zero means that all eight bytes came. -/
  zero : r.ret=0 ↔ ∃ p,payload=some p ∧ p.length=8
  /-- A full report is stored behind the report id. -/
  stored : ∀ p,payload=some p → p.length=8 →
    r.raw_data=raw_data.map fun raw => writeAt raw 0 (0#8::p)
  /-- Every other outcome is negative and leaves the array alone. -/
  untouched : r.ret≠0 → r.ret<0 ∧ r.raw_data=raw_data
  /-- The HID layer reports the length received. -/
  length : g.err=0 → ∃ p,payload=some p ∧ g.len=p.length+1

/-- What a backend tells of the payload: success for no payload is
impossible, a full payload is a success, and on success the length counts
the payload and the buffer holds it behind the report id. -/
structure TellsLength (payload : Option (List Byte)) (g : ReportReply W) : Prop where
  /-- A full payload is a success. -/
  full : ∀ p,payload=some p → p.length=8 → g.err=0
  /-- A success is a payload of the length reported, behind the report id. -/
  counted : g.err=0 → ∃ p rest,payload=some p ∧ g.len=p.length+1 ∧ g.buffer=0#8::(p++rest)

variable {hid : HidLayer W} {dev : Ptr} {w : W} {payload : Option (List Byte)}

/-- A backend that tells the length makes the read exact. -/
theorem readsExactly_of_tellsLength
    (h : TellsLength payload (hid.usbhidGetReport dev 0 (List.replicate 10 0#8) (8+1) w))
    (raw_data : Option (List Byte)) :
    ReadsExactly payload raw_data (hid.usbhidGetReport dev 0 (List.replicate 10 0#8) (8+1) w)
      (d16ReadRep hid dev 0 raw_data w) := by
  generalize hg : hid.usbhidGetReport dev 0 (List.replicate 10 0#8) (8+1) w=g at h
  have hlength : g.err=0 → ∃ p,payload=some p ∧ g.len=p.length+1 := by
    intro he
    obtain ⟨p,rest,hp,hl,-⟩ := h.counted he
    exact ⟨p,hp,hl⟩
  by_cases he : g.err=0
  · obtain ⟨p,rest,hp,hl,hb⟩ := h.counted he
    have h0 : g.buffer.getD 0 0#8=0#8 := by
      rw [hb,List.getD_cons_zero]
    by_cases h8 : p.length=8
    · have h9 : g.len=9 := by
        rw [hl,h8]
        rfl
      have htake : g.buffer.take 9=0#8::p := by
        rw [hb,List.take_succ_cons,List.take_left' h8]
      rw [d16ReadRep_ok hg he h9 h0,htake]
      refine ⟨iff_of_true rfl ⟨p,hp,h8⟩,?_,fun hne => absurd rfl hne,hlength⟩
      rintro p' hp' -
      rw [Option.some.inj (hp'.symm.trans hp)]
    · have h9 : ¬(g.len=9 ∧ g.buffer.getD 0 0#8=0#8) := by
        rw [hl]
        omega
      have hnone : ∀ p',payload=some p' → ¬p'.length=8 := by
        intro p' hp'
        rwa [Option.some.inj (hp'.symm.trans hp)]
      rw [d16ReadRep_bad hg he h9]
      have hneg : (-2 : ℤ)<0 := by decide
      refine ⟨iff_of_false hneg.ne fun ⟨p',hp',h8'⟩ => hnone p' hp' h8',?_,fun _ => ⟨hneg,rfl⟩,hlength⟩
      exact fun p' hp' h8' => absurd h8' (hnone p' hp')
  · have hnone : ∀ p',payload=some p' → ¬p'.length=8 := fun p' hp' h8' => he (h.full p' hp' h8')
    rw [d16ReadRep_err hg he]
    have hneg : (-1 : ℤ)<0 := by decide
    refine ⟨iff_of_false hneg.ne fun ⟨p',hp',h8'⟩ => hnone p' hp' h8',?_,fun _ => ⟨hneg,rfl⟩,hlength⟩
    exact fun p' hp' h8' => absurd h8' (hnone p' hp')

end Meaning

section Backends

variable {D : Type} {dev : Ptr}

/-- The buffer of a read: the report id, the payload and what was behind it. -/
theorem report_behind_id (b x : Byte) (rest payload : List Byte) :
    (writeAt (x::rest) 1 payload).set 0 b=b::(payload++rest.drop payload.length) := by
  rw [writeAt_cons_succ,List.set_cons_zero,writeAt_zero]

/-- The libusb backend tells the length. -/
theorem libusb_tellsLength (env : LibusbEnv D) (w : LibusbWorld D) :
    TellsLength (delivered dev (.libusb env w))
      (LibusbBackend.usbhidGetReport env dev 0 (List.replicate 10 0#8) (8+1) w) := by
  cases hd : (env.controlIn (usbDevHandle w dev) (getSetup 0) 8 w.env).1 with
  | none =>
    have hdel : delivered dev (.libusb env w)=none := by
      simp only [delivered,hd,Option.map_none]
    rw [hdel,LibusbBackend.usbhidGetReport_fail hd]
    have hne : USBHID_ERR_IO≠0 := by decide
    exact ⟨fun p hp => (by cases hp),fun he => absurd he hne⟩
  | some data =>
    have hdel : delivered dev (.libusb env w)=some (data.take 8) := by
      simp only [delivered,hd,Option.map_some]
    rw [hdel,LibusbBackend.usbhidGetReport_data hd]
    have hb := report_behind_id 0#8 0#8 (List.replicate 9 0#8) (data.take 8)
    exact ⟨fun _ _ _ => rfl,fun _ => ⟨data.take 8,_,rfl,rfl,hb⟩⟩

/-- The OS X backend tells the length; an empty report is an error there. -/
theorem osx_tellsLength (env : OsxEnv D) (w : OsxWorld D) :
    TellsLength (delivered dev (.osx env w))
      (OsxBackend.usbhidGetReport env dev 0 (List.replicate 10 0#8) (8+1) w) := by
  have h2 : (2 : ℤ)≤8+1 := by decide
  by_cases hfail : (received env w dev 0 (8+1)).1≠kIOReturnSuccess ∨
      ((received env w dev 0 (8+1)).2.take 8).length=0
  · rw [OsxBackend.usbhidGetReport_fail h2 hfail]
    have hne : USBHID_ERR_IO_HID≠0 := by decide
    refine ⟨?_,fun he => absurd he hne⟩
    intro p hp h8
    -- a full payload needs success and eight bytes
    rw [delivered] at hp
    split at hp
    · next hok =>
      rcases hfail with hne | hlen
      · exact absurd hok hne
      · rw [←Option.some.inj hp] at h8
        exact absurd (hlen.symm.trans h8) (by decide)
    · cases hp
  · have hok : (received env w dev 0 9).1=kIOReturnSuccess := by
      by_contra hne
      exact hfail (.inl hne)
    have hdel : delivered dev (.osx env w)=some ((received env w dev 0 9).2.take 8) := by
      rw [delivered,if_pos hok]
    rw [hdel,OsxBackend.usbhidGetReport_data h2 hfail]
    have hb := report_behind_id 0#8 0#8 (List.replicate 9 0#8) ((received env w dev 0 9).2.take 8)
    exact ⟨fun _ _ _ => rfl,fun _ => ⟨_,_,rfl,rfl,hb⟩⟩

/-- The Windows reply to a request that fails. -/
theorem mswin_getReport_fail {env : MswinEnv D} {w : MswinWorld D}
    (hd : (env.getFeature dev 0#8 9 w.env).1=none) :
    (MswinBackend.usbhidGetReport env dev 0 (List.replicate 10 0#8) (8+1) w).err≠0 := by
  have hc : charOf 0=0#8 := rfl
  have h9 : ((8 : ℤ)+1).toNat=9 := rfl
  simp only [MswinBackend.usbhidGetReport,hc,h9,hd]
  decide

/-- The Windows reply to a request that succeeds always claims nine bytes. -/
theorem mswin_getReport_data {env : MswinEnv D} {w : MswinWorld D} {data : List Byte}
    (hd : (env.getFeature dev 0#8 9 w.env).1=some data) :
    MswinBackend.usbhidGetReport env dev 0 (List.replicate 10 0#8) (8+1) w=
      ⟨0,0#8::(data.take 8++(List.replicate 9 0#8).drop (data.take 8).length),9,
        {w with ledger := w.ledger.use dev,env := (env.getFeature dev 0#8 9 w.env).2}⟩ := by
  have hc : charOf 0=0#8 := rfl
  have h9 : ((8 : ℤ)+1).toNat=9 := rfl
  have hs : (List.replicate 10 0#8).set 0 0#8=0#8::List.replicate 9 0#8 := rfl
  have hw : writeAt (0#8::List.replicate 9 0#8) 1 (data.take 8)=
      0#8::(data.take 8++(List.replicate 9 0#8).drop (data.take 8).length) := by
    rw [writeAt_cons_succ,writeAt_zero]
  simp only [MswinBackend.usbhidGetReport,hc,h9,hd,hs,hw]
  rfl

/-- The Windows backend makes the read exact only for full payloads. -/
theorem mswin_readsExactly_iff (env : MswinEnv D) (target : Target) (w : MswinWorld D)
    (raw_data : Option (List Byte)) :
    ReadsExactly (delivered dev (.mswin env w)) raw_data
        ((mswinHid env target).usbhidGetReport dev 0 (List.replicate 10 0#8) (8+1) w)
        (d16ReadRep (mswinHid env target) dev 0 raw_data w) ↔
      ∀ p,delivered dev (.mswin env w)=some p → p.length=8 := by
  cases hd : (env.getFeature dev 0#8 9 w.env).1 with
  | none =>
    have hdel : delivered dev (.mswin env w)=none := by
      simp only [delivered,hd,Option.map_none]
    rw [hdel]
    refine iff_of_true (readsExactly_of_tellsLength ⟨fun p hp => ?_,fun he => ?_⟩ raw_data)
      (fun p hp => ?_)
    · cases hp
    · exact absurd he (mswin_getReport_fail hd)
    · cases hp
  | some data =>
    have hg := mswin_getReport_data hd
    have hdel : delivered dev (.mswin env w)=some (data.take 8) := by
      simp only [delivered,hd,Option.map_some]
    rw [hdel]
    constructor
    · intro h p hp
      have hret : (d16ReadRep (mswinHid env target) dev 0 raw_data w).ret=0 := by
        rw [d16ReadRep_ok (r := _) hg rfl rfl rfl]
      obtain ⟨p',hp',h8⟩ := h.zero.mp hret
      rwa [Option.some.inj (hp.symm.trans hp')]
    · intro h
      have h8 : (data.take 8).length=8 := h _ rfl
      refine readsExactly_of_tellsLength ⟨fun _ _ _ => congrArg ReportReply.err hg,fun _ => ?_⟩ raw_data
      have hl : (9 : ℤ)=((data.take 8).length : ℤ)+1 := by
        rw [h8]
        rfl
      exact ⟨data.take 8,_,rfl,(congrArg ReportReply.len hg).trans hl,congrArg ReportReply.buffer hg⟩

end Backends

/-- Whichever backend is built, a read of report zero means what it says
exactly when the device behind a Windows backend does not deliver a short
report as a success. -/
theorem d16ReadRep_readsExactly_iff (b : Running) (target : Target) (dev : Ptr)
    (raw_data : Option (List Byte)) :
    ReadsExactly (delivered dev b) raw_data
        ((b.hid target).usbhidGetReport dev 0 (List.replicate 10 0#8) (8+1) b.world)
        (d16ReadRep (b.hid target) dev 0 raw_data b.world) ↔
      (b.IsMswin → ∀ p,delivered dev b=some p → p.length=8) := by
  cases b with
  | libusb env w =>
    exact iff_of_true (readsExactly_of_tellsLength (libusb_tellsLength env w) raw_data) False.elim
  | mswin env w =>
    exact (mswin_readsExactly_iff env target w raw_data).trans ⟨fun h _ => h,fun h => h trivial⟩
  | osx env w =>
    exact iff_of_true (readsExactly_of_tellsLength (osx_tellsLength env w) raw_data) False.elim

section ShortDevice

/-- A Windows system whose device answers a feature request with three bytes. -/
def shortEnv : MswinEnv Unit where
  classDevs s := (none,s)
  manufacturer _ s := (none,s)
  product _ s := (none,s)
  setFeature _ _ s := (true,s)
  getFeature _ _ _ s := (some [0x41#8,0x42#8,0x43#8],s)

/-- That system with the device opened as handle 1. -/
def shortWorld : MswinWorld Unit := ⟨Ledger.empty.openNext,fun _ => "hid",()⟩

/-- On Windows three delivered bytes pass for a full report. -/
theorem short_report_taken :
    delivered 1 (.mswin shortEnv shortWorld)=some [0x41#8,0x42#8,0x43#8] ∧
      (d16ReadRep (mswinHid shortEnv ⟨true,fun _ => 0#8⟩) 1 0 (some (List.replicate 9 0xFF#8)) shortWorld).ret=0 ∧
      ¬ReadsExactly (delivered 1 (.mswin shortEnv shortWorld)) (some (List.replicate 9 0xFF#8))
        ((mswinHid shortEnv ⟨true,fun _ => 0#8⟩).usbhidGetReport 1 0 (List.replicate 10 0#8) (8+1) shortWorld)
        (d16ReadRep (mswinHid shortEnv ⟨true,fun _ => 0#8⟩) 1 0 (some (List.replicate 9 0xFF#8)) shortWorld) := by
  have hdel : delivered 1 (.mswin shortEnv shortWorld)=some [0x41#8,0x42#8,0x43#8] := rfl
  have hret : (d16ReadRep (mswinHid shortEnv ⟨true,fun _ => 0#8⟩) 1 0 (some (List.replicate 9 0xFF#8))
      shortWorld).ret=0 := rfl
  refine ⟨hdel,hret,fun h => ?_⟩
  obtain ⟨p,hp,h8⟩ := h.zero.mp hret
  rw [hdel] at hp
  rw [←Option.some.inj hp] at h8
  exact absurd h8 (by decide)

end ShortDevice

end UsbIo16.ShortReports
