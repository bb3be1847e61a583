import AnalysisDesk.Service.Outcome
import AnalysisDesk.Url.Address

/-! # Reaching the service
Before a request is sent, its address must name a host and one of the schemes a request can be sent
by. An address that does not is refused without any connection. -/

namespace AnalysisDesk.Service

open AnalysisDesk.Url (Address NameCoding)

/-- The name and the words of a fault of an address. -/
def addressWords : Url.Fault → String
  | .relative => "RelativeUrlWithoutBase: relative URL without a base"
  | .emptyHost => "EmptyHost: empty host"
  | .number => "InvalidPort: invalid port number"
  | .four => "InvalidIpv4Address: invalid IPv4 address"
  | .six => "InvalidIpv6Address: invalid IPv6 address"
  | .name => "IdnaError: invalid international domain name"

/-- The schemes a request can be sent by. -/
def sendingSchemes : List String := ["http", "https"]

/-- Why a request to an address is refused. -/
inductive Refusal
  /-- The address cannot be read. -/
  | address (fault : Url.Fault)
  /-- A request cannot be sent by its scheme. -/
  | scheme (address : Address)
  deriving DecidableEq, Repr

/-- The text of a refusal. -/
def Refusal.message : Refusal → String
  | address fault => "Bad URL: failed to parse URL: " ++ addressWords fault
  | scheme a =>
    a.write ++ ": Unknown Scheme: unknown scheme '" ++ String.ofList a.scheme.name ++ "'"

/-- Why a request to a URL is refused, none if it is sent. -/
def refusal? (coding : NameCoding) (url : String) : Option Refusal :=
  match Address.read coding url with
  | .error fault => some (.address fault)
  | .ok address =>
    if sendingSchemes.contains (String.ofList address.scheme.name) then none
    else some (.scheme address)

/-- A refusal as a fault of a request. -/
def Refusal.fault (refusal : Refusal) : Fault := .transport (.network refusal.message)

end AnalysisDesk.Service
