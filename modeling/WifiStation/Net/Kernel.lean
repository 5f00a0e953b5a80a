/-!
# WifiStation.Net.Kernel

What can go wrong when the kernel is asked about an interface or told to change it.
-/

namespace WifiStation.Net

/-- A request to the kernel about links, addresses or routes failed. -/
inductive KernelError where
  /-- There is no connection to the kernel. -/
  | connection (reason : String)
  | linkNotFound (name : String)
  | request (operation reason : String)
  deriving DecidableEq, Repr, Inhabited

/-- The error as text. -/
def KernelError.message : KernelError → String
  | connection reason => s!"netlink connection failed: {reason}"
  | linkNotFound name => s!"no link named {name}"
  | request operation reason => s!"netlink request {operation} failed: {reason}"

/-- The radio of an interface could not be found. -/
inductive RadioError where
  | notFound (name : String)
  | notAvailable (reason : String)
  deriving DecidableEq, Repr, Inhabited

/-- The error as text. -/
def RadioError.message : RadioError → String
  | notFound name => s!"no wireless interface named {name}"
  | notAvailable reason => s!"nl80211 not available: {reason}"

end WifiStation.Net
