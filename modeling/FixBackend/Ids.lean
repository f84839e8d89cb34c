import FixBackend.Calendar
/-!
# Ids — identifiers, product tiers and their settings

`fixbackend/ids.py` and the tier table of `fixbackend/config.py`.  A UUID is a number; the new types over it and over
strings are abbreviations.  Tiers are ordered by `_product_tier_order`.
-/
namespace Fix

open Calendar

abbrev Uuid := Nat
abbrev WorkspaceId := Uuid
abbrev UserId := Uuid
abbrev FixCloudAccountId := Uuid
abbrev CloudAccountId := String
abbrev ExternalId := Uuid
abbrev SubscriptionId := Uuid
abbrev BillingId := Uuid
abbrev StripeCustomerId := String
abbrev StripeSubscriptionId := String
abbrev AwsRoleName := String
abbrev CloudAccountName := String
abbrev CloudAccountAlias := String
abbrev UserCloudAccountName := String
abbrev TaskId := String
abbrev GcpServiceAccountKeyId := Uuid
abbrev AzureSubscriptionCredentialsId := Uuid

/-- A string when it is neither null nor empty, the first operand of Python's `or`. -/
def truthy (s : Option String) : Option String := s.filter (· != "")

inductive CloudName where
  | aws
  | gcp
  | azure
deriving DecidableEq

inductive ProductTier where
  | trial
  | free
  | plus
  | business
  | enterprise
deriving DecidableEq

def ProductTier.paid (t : ProductTier) : Bool := t != .free && t != .trial

def ProductTier.order : ProductTier → Nat
  | .trial => 0
  | .free => 1
  | .plus => 2
  | .business => 3
  | .enterprise => 4

theorem ProductTier.order_injective : Function.Injective ProductTier.order := by
  intro a b h
  cases a <;> cases b <;> first | rfl | cases h

instance : LinearOrder ProductTier := LinearOrder.lift' ProductTier.order ProductTier.order_injective

theorem ProductTier.ne_trial_iff (t : ProductTier) : t ≠ .trial ↔ .free ≤ t := by
  cases t <;> decide

/-- `ProductTierSetting`, the retention period in days and the scan interval in hours. -/
structure ProductTierSetting where
  retentionPeriodDays : Nat
  seatsIncluded : Nat
  seatsMax : Option Nat
  scanIntervalHours : Nat
  accountLimit : Option Nat
  accountsIncluded : Nat
  pricePerAccountCents : Nat
deriving DecidableEq

def productTierSettings : ProductTier → ProductTierSetting
  | .free => ⟨31, 1, some 1, 24 * 30, some 1, 0, 0⟩
  | .trial => ⟨183, 1, none, 1, none, 0, 0⟩
  | .plus => ⟨92, 2, some 20, 24, none, 3, 3000⟩
  | .business => ⟨183, 5, some 50, 1, none, 10, 4000⟩
  | .enterprise => ⟨549, 20, none, 1, none, 25, 5000⟩

theorem accountsIncluded_pos {t : ProductTier} (h : t.paid = true) : 0 < (productTierSettings t).accountsIncluded := by
  cases t <;> first | decide | cases h

inductive Err where
  | valueError (msg : String)
  | keyError (key : String)
  | runtimeError (msg : String)
  | assertionError (msg : String)
  | attributeError (name : String)
  | integrityError
  | dataError
  | multipleResultsFound
  | resourceNotFound (msg : String)
  | notAllowed (msg : String)
  | wrongState (msg : String)
  | wrongExternalId (msg : String)
  | clientError (msg : String)
deriving DecidableEq

end Fix
