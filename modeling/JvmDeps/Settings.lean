import JvmDeps.Data.RawValue
import JvmDeps.SearchPath

set_option autoImplicit false

/-! # Settings of a test run

A test run can be given a search path and the choice to keep classes among their own dependencies.
This module holds the options as they are announced, and how their values are read.
-/

namespace JvmDeps.Settings

/-- An option as it is announced. -/
structure Announced where
  name : String
  kind : String
  standard : RawValue
  help : String

/-- The option for the search path. -/
def searchPathOption : Announced where
  name := "classdeps_classpath"
  kind := "paths"
  standard := .nothing
  help := "classdeps: classpath entries (directories, .jar/.zip), relative to rootdir"

/-- The option to keep classes among their own dependencies. -/
def includeSelfOption : Announced where
  name := "classdeps_include_self"
  kind := "bool"
  standard := .flag false
  help := "classdeps: keep the analyzed class in its own dependencies"

/-- The options, in the order in which they are announced. -/
def options : List Announced := [searchPathOption, includeSelfOption]

/-- The announced marker of tests. -/
def markerLine : String := "classdeps: mark test as class dependency test"

/-- The fixtures that tests may ask for. -/
def fixtures : List String := ["classdeps", "classdeps_config", "classdeps_provider"]

/-- The directory from which relative entries start: the first that is given, else the current
one. -/
def rootOf (rootPath rootDirectory : Option String) : Path :=
  Path.ofText ((rootPath <|> rootDirectory).getD ".")

end JvmDeps.Settings
