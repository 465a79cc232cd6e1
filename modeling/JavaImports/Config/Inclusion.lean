-- SUMMARY: Which files of a project a configuration selects.
import JavaImports.Config.Basic
import JavaImports.Glob

/-! # Selection of files -/

namespace JavaImports.Config

/-- Whether a path is described by a glob for inclusion and by none for exclusion. -/
def selects (config : Config) (path : String) : Bool :=
  !(config.excluded.any fun glob => Glob.describes glob path) &&
    config.included.any fun glob => Glob.describes glob path

end JavaImports.Config
