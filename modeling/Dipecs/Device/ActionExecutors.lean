import Dipecs.Device.Platform

/-! The executors of authorized actions on the device, and the bridge that selects one
by the action's name. -/

namespace Dipecs.Device

open Dipecs.Library

namespace CacheTrimmer

def release (p : Platform) (target : Option String) : List Effect × Nat :=
  let normalizedTarget := ifBlank "cache:prefetch" ((target.map trim).getD "")
  if normalizedTarget == "cache:prefetch" then
    ([.clearPrefetchCache, .recordInternal "release_memory_completed"], p.prefetchFiles)
  else if normalizedTarget == "cache:volatile" then
    ([.clearVolatileCache, .recordInternal "release_memory_completed"], p.volatileChunks)
  else if normalizedTarget == "cache:all" then
    ([.clearVolatileCache, .clearOwnCacheDir, .recordInternal "release_memory_completed"],
      p.cacheDirChildren)
  else ([.recordInternal "release_memory_rejected"], 0)

end CacheTrimmer

namespace OwnResourceWarmer

def isAllowedTarget (target : String) : Bool :=
  target == "own:resources" || Text.startsWith "own:" target

def warm (target : Option String) : List Effect × Bool :=
  let normalizedTarget := ifBlank "own:resources" ((target.map trim).getD "")
  if isAllowedTarget normalizedTarget then
    ([.warmOwnResources normalizedTarget, .recordInternal "own_resources_prewarmed"], true)
  else ([.recordInternal "prewarm_rejected"], false)

end OwnResourceWarmer

namespace ActionMaintenanceScheduler

def isAllowedTarget (target : String) : Bool :=
  target == "work:collector_heartbeat" || Text.startsWith "work:" target

def schedule (p : Platform) (target : Option String) : List Effect × Bool :=
  let normalizedTarget := ifBlank "work:collector_heartbeat" ((target.map trim).getD "")
  if !isAllowedTarget normalizedTarget then ([.recordInternal "keep_alive_rejected"], false)
  else match p.schedules with
    | none => ([.recordInternal "keep_alive_failed"], false)
    | some scheduled =>
      ([.scheduleOwnJob normalizedTarget,
        .recordInternal (if scheduled then "keep_alive_scheduled" else "keep_alive_failed")],
        scheduled)

end ActionMaintenanceScheduler

namespace SystemActionExecutors

def parsePackageTarget (target : String) : String :=
  if Text.startsWith "own:" target then "com.dipecs.collector"
  else
    ifBlank "com.dipecs.collector"
      (Text.before '/' (Text.before ':' (Text.removePrefix "notif:"
        (Text.removePrefix "pkg:" target))))

def prewarmOwn (p : Platform) (target : String) : Execution :=
  if Text.startsWith "own:volatile-cache" target then
    ⟨(OwnResourceWarmer.warm (some target)).1,
      if (OwnResourceWarmer.warm (some target)).2 then
        ⟨true, "prewarm_own:" ++ Text.removePrefix "own:" target, p.latencyUs, none⟩
      else ⟨false, "prewarm_own_failed", p.latencyUs,
        some "Volatile cache prewarm rejected"⟩⟩
  else match p.startOwnActivity with
    | .ok () =>
      ⟨[.startOwnActivity target],
        ⟨true, "prewarm_own:" ++ Text.removePrefix "own:" target, p.latencyUs, none⟩⟩
    | .error message =>
      ⟨[.startOwnActivity target], ⟨false, "prewarm_own_failed", p.latencyUs, message⟩⟩

def prewarmExternal (p : Platform) (pkg : String) : Execution :=
  match p.launch pkg with
  | .noLauncher =>
    ⟨[], ⟨false, "prewarm_no_launcher:" ++ pkg, p.latencyUs,
      some ("Package " ++ pkg ++ " has no launcher activity")⟩⟩
  | .launched =>
    ⟨[.launchPackage pkg], ⟨true, "prewarm:" ++ pkg, p.latencyUs, none⟩⟩
  | .securityDenied message =>
    ⟨[.launchPackage pkg], ⟨false, "prewarm_security_denied:" ++ pkg, p.latencyUs,
      some ("Start background activity denied: " ++ showMessage message)⟩⟩
  | .failed message =>
    ⟨[.launchPackage pkg], ⟨false, "prewarm_failed:" ++ pkg, p.latencyUs, message⟩⟩

def prewarmProcess (p : Platform) (target : String) : Execution :=
  let pkg := parsePackageTarget target
  if pkg == p.packageName then prewarmOwn p target else prewarmExternal p pkg

def keepAlive (p : Platform) (target : String) : Execution :=
  let success := p.oomAdjustable || p.cgroupPinnable
  ⟨[.lowerOwnOomScore, .pinOwnCgroup] ++ (ActionMaintenanceScheduler.schedule p (some target)).1 ++
      [.recordInternal (if success then "keep_alive_system" else "keep_alive_fallback")],
    { success := success
      summary := "keepalive" ++ (if p.oomAdjustable then ":oom" else "") ++
        (if p.cgroupPinnable then ":cgroup" else "") ++ (if success then "" else ":fallback")
      latencyUs := p.latencyUs
      error := if success then none
        else some "oom=denied, cgroup=denied — JobScheduler fallback only" }⟩

/-- Clears the cache files of every installed application, and counts the successes. -/
def clearAppCachesSystem (p : Platform) (packages : List String) : List Effect × Nat :=
  (packages.map .deleteCacheFiles ++
      if packages.all p.deleteCacheFiles then []
      else [.recordInternal "release_memory_reflection_failures"],
    packages.countP p.deleteCacheFiles)

/-- The normalized target, what is done about it, the parts of the summary, the error. -/
def releaseParts (p : Platform) (target : Option String) (normalizedTarget : String) :
    List Effect × List String × Option String :=
  if normalizedTarget == "cache:prefetch" then
    ([.clearPrefetchCache], ["prefetch_cache:" ++ toString p.prefetchFiles], none)
  else if normalizedTarget == "cache:volatile" then
    ([.clearVolatileCache], ["volatile_cache:" ++ toString p.volatileBytes], none)
  else if normalizedTarget == "cache:all" then
    let own := ["prefetch_cache:" ++ toString p.prefetchFiles,
      "volatile_cache:" ++ toString p.volatileBytes]
    match p.installed with
    | .ok packages =>
      let (effects, cleared) := clearAppCachesSystem p packages
      ([.clearPrefetchCache, .clearVolatileCache] ++ effects,
        own ++ ["app_caches:" ++ toString cleared], none)
    | .error message =>
      ([.clearPrefetchCache, .clearVolatileCache], own ++ ["app_caches:denied"],
        some ("cache:all system clear failed: " ++ showMessage message))
  else if Text.startsWith "pkg:" normalizedTarget then
    let pkg := Text.removePrefix "pkg:" normalizedTarget
    match p.pmClear pkg with
    | .exited output =>
      ([.pmClearCache pkg], ["pkg:" ++ pkg ++ ":" ++ ifBlank "cleared" (trim output)], none)
    | .timedOut =>
      ([.pmClearCache pkg], ["pkg:" ++ pkg ++ ":" ++ "pm_clear_timeout:" ++ pkg], none)
    | .failed message =>
      ([.pmClearCache pkg], ["pkg:" ++ pkg ++ ":denied"],
        some ("pm clear " ++ pkg ++ ": " ++ showMessage message))
  else if normalizedTarget == "page" then
    match p.dropCaches with
    | .ok () =>
      ([.recordInternal "release_memory_drop_caches", .dropPageCache], ["drop_caches"], none)
    | .error message =>
      ([.recordInternal "release_memory_drop_caches", .dropPageCache], ["drop_caches:denied"],
        message)
  else
    let (effects, deleted) := CacheTrimmer.release p target
    (effects, ["app_cache:" ++ toString deleted], none)

def releaseMemory (p : Platform) (target : Option String) : Execution :=
  let normalizedTarget := ifBlank "cache:prefetch" ((target.map trim).getD "")
  let (effects, parts, error) := releaseParts p target normalizedTarget
  ⟨effects ++ [.recordInternal "release_memory_system"],
    ⟨error.isNone, ";".intercalate parts, p.latencyUs, error⟩⟩

def prefetchFile (p : Platform) (target : String) : Execution :=
  ⟨[.enqueuePrefetch target], ⟨true, "prefetch_enqueued", p.latencyUs, none⟩⟩

def noOp (p : Platform) : Execution :=
  ⟨[.recordInternal "action_noop"], ⟨true, "noop", p.latencyUs, none⟩⟩

end SystemActionExecutors

namespace ActionExecutorBridge

def dispatch (p : Platform) (actionType : String) (target : Option String) : Execution :=
  if actionType == "PreWarmProcess" then
    SystemActionExecutors.prewarmProcess p (target.getD "own:resources")
  else if actionType == "PrefetchFile" then
    if isBlank (target.getD "") then
      ⟨[.recordInternal "action_dispatch_skipped"],
        ⟨false, "prefetch_skipped", 0, some "PrefetchFile requires a target"⟩⟩
    else SystemActionExecutors.prefetchFile p (target.getD "")
  else if actionType == "KeepAlive" then
    SystemActionExecutors.keepAlive p (target.getD "work:collector_heartbeat")
  else if actionType == "ReleaseMemory" then
    SystemActionExecutors.releaseMemory p target
  else if actionType == "NoOp" then SystemActionExecutors.noOp p
  else
    ⟨[.recordInternal "action_dispatch_unsupported"],
      ⟨false, "unsupported_action", 0, some ("Unsupported action type: " ++ actionType)⟩⟩

end ActionExecutorBridge

end Dipecs.Device
