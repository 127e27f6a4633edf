import MissionBase.Error
import MissionBase.Files

/-!
# The tables of a compilation

Every compilation reads the same tables, and all of their files have to be there before the first
is read.
-/

namespace MissionBase

/-- The tables, in the order in which missing ones are named. -/
def requiredTables : List String :=
  ["vdf", "caf", "cap", "txf", "txp", "mcf", "lgf", "cur", "pcf", "pic", "pid", "tpcf", "plf",
    "vpd", "ocf", "ocp", "tcp", "pcpc", "pcdf", "ccf", "cdf", "cpc", "cca", "ccs", "paf", "pas",
    "prf", "prv", "ptv", "cvs", "cve", "cvp"]

/-- Fails with the directory if there is none, else with all tables whose files are missing. -/
def checkTables (files : Files) (root extension : String) : Except Error Unit :=
  if !files.isDirectory root then .error (.tableNotFound root)
  else
    match requiredTables.filter fun t => !files.isFile (joinPath root (t ++ "." ++ extension)) with
    | [] => .ok ()
    | missing => .error (.missingTables root missing)

end MissionBase
