import Mathlib.Data.List.DropRight

/-!
# Access points

The settings of an access point, the list that is made from the rows of the carrier database,
and the one that is made up for an operator without rows.
-/
namespace Fw100.Telephony

structure ApnSetting where
  id : ℤ
  numeric : String
  carrier : Option String
  apn : Option String
  proxy : Option String
  port : Option String
  mmsc : Option String
  mmsProxy : Option String
  mmsPort : Option String
  user : Option String
  password : Option String
  authType : ℤ
  types : List String
  protocol : Option String
  roamingProtocol : Option String
deriving DecidableEq, Repr

def apnTypeAll : String := "*"

def apnTypeDefault : String := "default"

def apnTypeDun : String := "dun"

/-- `String.split(",")`, which drops the empty strings at the end. -/
def splitTypes (types : String) : List String :=
  ((types.toList.splitOn ',').map String.ofList).rdropWhile (· = "")

def parseTypes : Option String → List String
  | none => [apnTypeAll]
  | some types => if types = "" then [apnTypeAll] else splitTypes types

/-- A row of `Telephony.Carriers`. The rows are selected by their numeric, which is not null. -/
structure CarrierRow where
  id : ℤ
  numeric : String
  name : Option String
  apn : Option String
  proxy : Option String
  port : Option String
  mmsc : Option String
  mmsProxy : Option String
  mmsPort : Option String
  user : Option String
  password : Option String
  authType : ℤ
  type : Option String
  protocol : Option String
  roamingProtocol : Option String
deriving DecidableEq, Repr

def CarrierRow.toApn (row : CarrierRow) : ApnSetting where
  id := row.id
  numeric := row.numeric
  carrier := row.name
  apn := row.apn
  proxy := row.proxy
  port := row.port
  mmsc := row.mmsc
  mmsProxy := row.mmsProxy
  mmsPort := row.mmsPort
  user := row.user
  password := row.password
  authType := row.authType
  types := parseTypes row.type
  protocol := row.protocol
  roamingProtocol := row.roamingProtocol

def createApnList (rows : List CarrierRow) : List ApnSetting := rows.map CarrierRow.toApn

/-- The access points of `createApnFromOperator` differ in three fields. -/
def madeUpApn (numeric carrier mmsc : String) : ApnSetting where
  id := 1
  numeric := numeric
  carrier := some carrier
  apn := some "internet"
  proxy := none
  port := none
  mmsc := some mmsc
  mmsProxy := none
  mmsPort := none
  user := some "*"
  password := some "*"
  authType := 0
  types := parseTypes (some (apnTypeAll ++ "," ++ apnTypeDefault))
  protocol := none
  roamingProtocol := none

def verizonApn : ApnSetting := madeUpApn "310004" "Verizon" "http://mms.vtext.com/servlets/mms"

def sprintApn : ApnSetting := madeUpApn "310120" "Sprint" "http://mms.sprintpcs.com"

def carrierApn : ApnSetting := madeUpApn "310000" "Carrier" "http://mms.carrier.com"

def operatorApn (operator : String) : ApnSetting :=
  if operator = "310004" then verizonApn
  else if operator = "310120" then sprintApn
  else carrierApn

/-- The list of `createAllApnList`, for a cursor that may be null. -/
def builtApns (operator : String) (carriers : Option (List CarrierRow)) : List ApnSetting :=
  if (createApnList (carriers.getD [])).isEmpty then [operatorApn operator]
  else createApnList (carriers.getD [])

theorem builtApns_ne_nil (operator : String) (carriers : Option (List CarrierRow)) :
    builtApns operator carriers ≠ [] := by
  rw [builtApns]
  split_ifs with h
  · exact List.cons_ne_nil _ _
  · simpa using h

example : parseTypes (some "default,mms,,") = ["default", "mms"] := by decide +kernel

end Fw100.Telephony
