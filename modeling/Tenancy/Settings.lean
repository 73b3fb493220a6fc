import Tenancy.Duration
import Tenancy.SortedMap
import Tenancy.Text.Decimal
import Tenancy.Text.Split

namespace Tenancy

/-- Named texts, written once by the owner of a pool and read by whoever makes its connections. -/
structure Settings where
  entries : SortedMap String := .empty

namespace Settings

/-- Names with a meaning of their own. -/
def identityUrlKey := "identity_url"
def tenantNameKey := "tenant_name"
def connectorKey := "connector"
def retryDelayKey := "retry_delay_secs"
def retryLimitKey := "retry_limit"
def regionKey := "region"
def trustedHostsKey := "trusted_hosts"

def set (s : Settings) (key value : String) : Settings := ⟨s.entries.insert key value⟩

def get? (s : Settings) (key : String) : Option String := s.entries.get? key

def contains (s : Settings) (key : String) : Bool := s.entries.contains key

def size (s : Settings) : Nat := s.entries.size

def toList (s : Settings) : List (String × String) := s.entries.entries

def region (s : Settings) : Option String := s.get? regionKey

def tenantName (s : Settings) : Option String := s.get? tenantNameKey

def identityUrl (s : Settings) : Option String := s.get? identityUrlKey

def connector (s : Settings) : Option String := s.get? connectorKey

/-- Whole seconds below 2^64. -/
def retryDelay (s : Settings) : Option Nat :=
  (s.get? retryDelayKey).bind fun v => Text.Unsigned.read? UInt64.size v.toList

def retryLimit (s : Settings) : Option Nat :=
  (s.get? retryLimitKey).bind fun v => Text.Unsigned.read? UInt32.size v.toList

/-- Host names from one text: they stand between commas, and the blanks around a name and names
that are empty do not count. -/
def readHosts (text : String) : List String :=
  (((Text.split (· == ',') text.toList).map Text.trim).filter (!·.isEmpty)).map String.ofList

def writeHosts (hosts : List String) : String := ",".intercalate hosts

def trustedHosts (s : Settings) : List String :=
  ((s.get? trustedHostsKey).map readHosts).getD []

def display (s : Settings) : String :=
  ", ".intercalate (s.toList.map fun (key, value) => key ++ "=" ++ value)

end Settings
end Tenancy
