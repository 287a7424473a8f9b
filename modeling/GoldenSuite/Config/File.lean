import GoldenSuite.Config
import GoldenSuite.FileTree.Access
import GoldenSuite.Yaml.Decoding

/-! Configuration files: YAML documents with the fields of a configuration. -/

namespace GoldenSuite.Config

open Yaml.Decoding

/-- The fields of a layout in a file. -/
def layoutShape : Yaml.Shape Layout where
  type := "main.Layout"
  fields :=
    [ ("programs", textField fun layout text => { layout with programs := text }),
      ("inputs", textField fun layout text => { layout with inputs := text }),
      ("references", textField fun layout text => { layout with references := text }),
      ("scratch", textField fun layout text => { layout with scratch := text }),
      ("program_ext", textField fun layout text => { layout with programExt := text }) ]

/-- The fields of a configuration in a file. -/
def fileShape : Yaml.Shape Config where
  type := "main.Config"
  fields :=
    [ ("machine", textField fun config text => { config with machine := text }),
      ("layout", fun document node config => do
        let layout ← fillRecord layoutShape document node config.layout
        return { config with layout }),
      ("timeout", durationField fun config timeout => { config with timeout }),
      ("strict_exit", boolField fun config flag => { config with strictExit := flag }),
      ("no_colors", boolField fun config flag => { config with noColors := flag }),
      ("run", textField fun config text => { config with run := text }),
      ("diff", boolField fun config flag => { config with showDiff := flag }),
      ("table", boolField fun config flag => { config with showTable := flag }) ]

/-- Reads a configuration file on top of the default configuration. Fields that the file leaves
out keep their defaults. -/
def load (tree : FileTree) (path : String) : Except Fault Config :=
  match tree.readFile path with
  | .error fault => .error (.context "reading config: " fault)
  | .ok data =>
      match Yaml.decode fileShape data default with
      | .error unusable =>
          .error (.context ("parsing config " ++ path ++ ": ") (.plain unusable.message))
      | .ok config =>
          match config.invalid? with
          | some invalid =>
              .error (.context ("config " ++ path ++ ": ") (.plain invalid.message))
          | none => .ok config

end GoldenSuite.Config
