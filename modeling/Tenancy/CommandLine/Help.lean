import Tenancy.CommandLine.Arguments

namespace Tenancy.CommandLine

/-- A name and what is said about it, the latter from column `width` on. -/
def helpLine (width : Nat) (name about : String) : String :=
  "  " ++ name ++ String.ofList (List.replicate (width - name.length) ' ') ++ "  " ++ about

def helpSection (title : String) (entries : List (String × String)) : String :=
  let width := (entries.map fun (name, _) => name.length).foldl max 0
  "\n" ++ title ++ ":\n" ++
    String.join (entries.map fun (name, about) => helpLine width name about ++ "\n")

def helpText (about usage : String) (sections : List String) : String :=
  about ++ "\n\nUsage: " ++ usage ++ "\n" ++ String.join sections

def Topic.about : Topic → String
  | program => "Tenant connection pool configuration and catalog routing tool"
  | check => "Validate configuration and print effective settings"
  | catalog => "Authenticate against a catalog document and print its summary"
  | resolve => "Print the region whose compute endpoint serves a resource URL"
  | help => "Print this message or the help of the given subcommand(s)"

def helpOption : String × String := ("-h, --help", "Print help")

def queryOptions : List (String × String) := [
  ("    --provider <PROVIDER>", "Provider name from the configuration"),
  ("    --tenant <TENANT>", "Tenant name under that provider"),
  ("    --catalog <CATALOG_FILE>", "JSON document standing in for the identity service response"),
  helpOption]

def queryUsage : String := "--provider <PROVIDER> --tenant <TENANT> --catalog <CATALOG_FILE>"

def Topic.text (t : Topic) : String :=
  match t with
  | program =>
    helpText t.about "tenant-pool [OPTIONS] <COMMAND>" [
      helpSection "Commands" [
        ("check", Topic.check.about),
        ("catalog", Topic.catalog.about),
        ("resolve", Topic.resolve.about),
        ("help", Topic.help.about)],
      helpSection "Options" [
        ("-c, --config <CONFIG>",
          "Path to the TOML configuration file [default: " ++ defaultConfig ++ "]"),
        helpOption]]
  | check => helpText t.about "tenant-pool check" [helpSection "Options" [helpOption]]
  | catalog =>
    helpText t.about ("tenant-pool catalog " ++ queryUsage) [helpSection "Options" queryOptions]
  | resolve =>
    helpText t.about ("tenant-pool resolve " ++ queryUsage ++ " <URL>") [
      helpSection "Arguments"
        [("<URL>", "Resource URL, e.g. http://10.1.1.2:8774/v2.1/servers/42")],
      helpSection "Options" queryOptions]
  | help =>
    helpText t.about "tenant-pool help [COMMAND]..." [
      helpSection "Arguments" [("[COMMAND]...", "Print help for the subcommand(s)")]]

end Tenancy.CommandLine
