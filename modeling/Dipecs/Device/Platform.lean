import Dipecs.Library.Text

/-! The Android side: what the executors may do to the device, and what the platform
answers when they try. -/

namespace Dipecs.Device

open Dipecs.Library

def isWhitespace (c : Char) : Bool :=
  decide (c.toNat ∈ [0x9, 0xA, 0xB, 0xC, 0xD, 0x1C, 0x1D, 0x1E, 0x1F, 0x20, 0xA0, 0x1680, 0x2028,
    0x2029, 0x202F, 0x205F, 0x3000]) ||
  decide (0x2000 ≤ c.toNat ∧ c.toNat ≤ 0x200A)

def trim (s : String) : String := Text.trim isWhitespace s

def isBlank (s : String) : Bool := Text.isBlank isWhitespace s

def ifBlank (default s : String) : String := if isBlank s then default else s

def showMessage (message : Option String) : String := message.getD "null"

inductive Effect
  | startOwnActivity (target : String)
  | warmOwnResources (target : String)
  | launchPackage (pkg : String)
  | clearPrefetchCache
  | clearVolatileCache
  | clearOwnCacheDir
  | deleteCacheFiles (pkg : String)
  | pmClearCache (pkg : String)
  | dropPageCache
  | lowerOwnOomScore
  | pinOwnCgroup
  | scheduleOwnJob (target : String)
  | enqueuePrefetch (target : String)
  | recordInternal (eventType : String)
  deriving DecidableEq

structure ActionResult where
  success : Bool
  summary : String
  latencyUs : Int
  error : Option String
  deriving DecidableEq

structure Execution where
  effects : List Effect
  result : ActionResult
  deriving DecidableEq

inductive LaunchAnswer
  | noLauncher
  | launched
  | securityDenied (message : Option String)
  | failed (message : Option String)
  deriving DecidableEq

inductive PmAnswer
  | exited (output : String)
  | timedOut
  | failed (message : Option String)
  deriving DecidableEq

/-- The device under the executors: its answers may be any. -/
structure Platform where
  packageName : String
  latencyUs : Int
  launch : String → LaunchAnswer
  startOwnActivity : Except (Option String) Unit
  installed : Except (Option String) (List String)
  deleteCacheFiles : String → Bool
  pmClear : String → PmAnswer
  dropCaches : Except (Option String) Unit
  prefetchFiles : Nat
  cacheDirChildren : Nat
  volatileBytes : Nat
  volatileChunks : Nat
  oomAdjustable : Bool
  cgroupPinnable : Bool
  schedules : Option Bool

/-- The packages an effect touches.  The page cache belongs to all of them. -/
def Effect.ActsOn (p : Platform) : Effect → String → Prop
  | startOwnActivity _, pkg | warmOwnResources _, pkg => pkg = p.packageName
  | launchPackage q, pkg => pkg = q
  | clearPrefetchCache, pkg | clearVolatileCache, pkg | clearOwnCacheDir, pkg =>
    pkg = p.packageName
  | deleteCacheFiles q, pkg => pkg = q
  | pmClearCache q, pkg => pkg = q
  | dropPageCache, _ => True
  | lowerOwnOomScore, pkg | pinOwnCgroup, pkg | scheduleOwnJob _, pkg => pkg = p.packageName
  | enqueuePrefetch _, pkg => pkg = p.packageName
  | recordInternal _, _ => False

end Dipecs.Device
