import CredRegistry.Config.Settings
import CredRegistry.Json.Schema

/-!
# The schema of settings

The JSON values that are taken for settings when they are loaded. A field that is
not given has its default, and null stands for no field.
-/

namespace CredRegistry.Settings

open CredRegistry.Json

def levelNames : List String := ["trace", "debug", "info", "warn", "error"]

def anyText : Schema := .string none 0

def someText : Schema := .string none 1

def schema : Schema :=
  .object ["version"]
    [("version", .string (some [formatVersion]) 0),
      ("database", .object [] [("path", someText)]),
      ("cluster", .object [] [("name", someText)]),
      ("argocd", .object [] [("namespace", someText), ("configMapName", someText)]),
      ("logging", .object [] [("level", .string (some levelNames) 0), ("json", .boolean)]),
      ("tokenKey", anyText),
      ("tokenKeyFile", anyText),
      ("tokenKeyEnvVar", anyText)]

end CredRegistry.Settings
