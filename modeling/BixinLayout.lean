import BixinLayout.CString
import BixinLayout.Pager
import BixinLayout.Humanizer
import BixinLayout.HumanizerProof
import BixinLayout.Dialogs
import BixinLayout.Omni
import BixinLayout.AddressScreens
import BixinLayout.AddressQr
import BixinLayout.Labels
import BixinLayout.DeviceInfo
import BixinLayout.Nav.Machine
import BixinLayout.Nav.Phases
import BixinLayout.Nav.Effects
import BixinLayout.Nav.Tick
import BixinLayout.Nav.Invariant
import BixinLayout.Nav.Refinement
import BixinLayout.Nav.Timers
import BixinLayout.Nav.Runs
import BixinLayout.Nav.AutoLock
import BixinLayout.HomeScreen
import BixinLayout.Amounts
import BixinLayout.Nav.Order
