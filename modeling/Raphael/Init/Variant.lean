import Mathlib.Data.List.Basic

namespace Raphael.Init

/-! # Variant selection

`vendor_load_properties` hands the table `variants` to `search_variant`, which applies the
first record that matches the hardware and SKU values read at boot. The table is translated
from the source. `search_variant` lives in `libinit_variant`, outside this repository, and is
modelled from the spec, whose "equality/prefix" match is read as equality. The selected record
is the result: the properties it writes, and `set_dalvik_heap`, are left out.
-/

structure VariantInfo where
  hwcValue : String
  skuValue : String
  brand : String
  device : String
  marketname : String
  model : String
  buildFingerprint : String
  nfc : Bool
deriving DecidableEq

def raphaelinInfo : VariantInfo where
  hwcValue := "INDIA"
  skuValue := ""
  brand := "Xiaomi"
  device := "raphaelin"
  marketname := "Redmi K20 Pro"
  model := "MZB7751IN"
  buildFingerprint :=
    "Xiaomi/raphaelin/raphaelin:11/RKQ1.200826.002/V12.5.1.0.RFKINXM:user/release-keys"
  nfc := false

def raphaelGlobalInfo : VariantInfo where
  hwcValue := "GLOBAL"
  skuValue := ""
  brand := "Xiaomi"
  device := "raphael"
  marketname := "Mi 9T Pro"
  model := "M1903F11G"
  buildFingerprint :=
    "Xiaomi/raphael/raphael:11/RKQ1.200826.002/V12.5.2.0.RFKMIXM:user/release-keys"
  nfc := true

def raphaelInfo : VariantInfo where
  hwcValue := ""
  skuValue := ""
  brand := "Xiaomi"
  device := "raphael"
  marketname := "Redmi K20 Pro"
  model := "M1903F11A"
  buildFingerprint :=
    "Xiaomi/raphael/raphael:11/RKQ1.200826.002/V12.5.6.0.RFKCNXM:user/release-keys"
  nfc := true

def variants : List VariantInfo := [raphaelinInfo, raphaelGlobalInfo, raphaelInfo]

/-- Modelled from the spec: a record matches when each of its non-empty match fields equals
the value read at boot; an empty field matches any value. -/
def VariantInfo.matches (variant : VariantInfo) (hwc sku : String) : Bool :=
  (variant.hwcValue.isEmpty || variant.hwcValue == hwc) &&
    (variant.skuValue.isEmpty || variant.skuValue == sku)

/-- Modelled from the spec: the first record of the table that matches, in table order. -/
def searchVariant (variants : List VariantInfo) (hwc sku : String) : Option VariantInfo :=
  variants.find? fun variant => variant.matches hwc sku

def vendorLoadProperties (hwc sku : String) : Option VariantInfo :=
  searchVariant variants hwc sku

end Raphael.Init
