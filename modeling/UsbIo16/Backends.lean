import UsbIo16.LibusbBackend
import UsbIo16.MswinBackend
import UsbIo16.OsxBackend

/-!
# The three backends side by side

A claim about whichever backend is built is a claim about a value that says
which one it is, how its operating system answers and what its world is.
-/

namespace UsbIo16.Backends

open Hiddata LibusbBackend MswinBackend OsxBackend

/-- One backend with the system it runs on. -/
inductive Running : Type 1 where
  | libusb {D : Type} (env : LibusbEnv D) (world : LibusbWorld D)
  | mswin {D : Type} (env : MswinEnv D) (world : MswinWorld D)
  | osx {D : Type} (env : OsxEnv D) (world : OsxWorld D)

/-- The worlds of a backend. -/
def Running.World : Running → Type
  | @libusb D _ _ => LibusbWorld D
  | @mswin D _ _ => MswinWorld D
  | @osx D _ _ => OsxWorld D

/-- The world it is in. -/
def Running.world : (b : Running) → b.World
  | libusb _ world => world
  | mswin _ world => world
  | osx _ world => world

/-- Its HID layer. -/
def Running.hid (target : Target) : (b : Running) → HidLayer b.World
  | libusb env _ => libusbHid env target
  | mswin env _ => mswinHid env target
  | osx env _ => osxHid env target

/-- Whether it is the Windows backend. -/
def Running.IsMswin : Running → Prop
  | libusb _ _ => False
  | mswin _ _ => True
  | osx _ _ => False

end UsbIo16.Backends
