import Jaull.Text.Case

/-!
# Licence categories

Port of `jaull/domain/licenses.py`. The prefixes of bespoke licences all lead to the category that any
other text has, so they are not repeated.
-/

namespace Jaull.Domain
open Jaull.Text

/-- Python `LicenseCategory`. -/
inductive LicenseCategory
  | commercialAllowed | commercialRestricted | unknown
  deriving DecidableEq, Repr

/-- Python `PERMISSIVE_LICENSES`. -/
def permissiveLicenses : List String :=
  ["apache-2.0", "mit", "bsd", "bsd-2-clause", "bsd-3-clause", "cc-by-4.0", "cc0-1.0", "gemma", "isc",
    "mpl-2.0", "openrail", "unlicense", "zlib"]

/-- Python `RESTRICTED_LICENSES`. -/
def restrictedLicenses : List String :=
  ["cc-by-nc-2.0", "cc-by-nc-3.0", "cc-by-nc-4.0", "cc-by-nc-nd-4.0", "cc-by-nc-sa-4.0",
    "creativeml-openrail-m", "gpl-3.0", "agpl-3.0"]

/-- Bucket of a declared licence; unknown is the safe default (Python `classify_license`). -/
def classifyLicense (license : Option String) : LicenseCategory :=
  match license.filter (· ≠ "") with
  | none => .unknown
  | some license =>
    let normalised := lower (strip license)
    if normalised ∈ permissiveLicenses then .commercialAllowed
    else if normalised ∈ restrictedLicenses then .commercialRestricted
    else if "cc-by-nc".toList.isPrefixOf normalised.toList then .commercialRestricted
    else .unknown

end Jaull.Domain
