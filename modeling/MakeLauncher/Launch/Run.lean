import MakeLauncher.Build
import MakeLauncher.Launch.CygwinTrial
import MakeLauncher.Site

/-! A launch from the request to the end of the build: the settings are logged, the platform is
detected, make is found and, under Cygwin, tried, and at last it is started with the arguments. -/

namespace MakeLauncher

/-- What a launch goes by besides its request. -/
structure Surroundings where
  site : Site
  probe : Probe
  runner : Runner

namespace Launch

/-- The build for a request. Reading the arguments may leave a warning. -/
def configure (request : Request) : Launch Build := do
  let build ← ofExcept (Build.ofRequest request)
  noteAll (build.environment.seed.read build.arguments).2
  pure build

/-- The platform of the host. Both questions are asked before either answer is looked at. -/
def detect (probe : Probe) : Launch Platform := do
  let kernel ← ask probe .kernel
  let machine ← ask probe .machine
  ofExcept (Platform.ofNames kernel machine)

/-- The make for a build. One that the user names is the only one tried; otherwise the one of the
installation comes before any on the search path, and need not be executable. -/
def findMake (site : Site) (build : Build) (platform : Platform) : Launch Make :=
  let search (name : String) : Option Bytes :=
    site.search build.environment.searchPath build.directory name
  match build.environment.chosenMake with
  | some name =>
      match search name with
      | some path => pure ⟨path, .chosen⟩
      | none => throw (.invalidOverride name)
  | none =>
      let prebuilt := Make.prebuiltPath build.root platform
      if site.isFile prebuilt then pure ⟨prebuilt, .prebuilt⟩
      else do
        note (.noPrebuilt prebuilt)
        match search Make.defaultName with
        | some path => pure ⟨path, .searchPath⟩
        | none => throw .noMake

/-- The path that make is started by. -/
def program (runner : Runner) (build : Build) (make : Make) : Launch Bytes :=
  if build.environment.isCygwin then CygwinTrial.run runner make.path build.root
  else pure make.path

/-- All that comes before the build. -/
def prepare (surroundings : Surroundings) (build : Build) : Launch Invocation := do
  noteAll (.root build.root :: Event.ofSettings build.settings)
  let platform ← detect surroundings.probe
  noteAll (Event.ofPlatform platform)
  let make ← findMake surroundings.site build platform
  note (.make make)
  let program ← program surroundings.runner build make
  pure (build.invocation program)

def run (surroundings : Surroundings) (build : Build) : Launch Reply := do
  let invocation ← prepare surroundings build
  call surroundings.runner .status invocation

end Launch
end MakeLauncher
