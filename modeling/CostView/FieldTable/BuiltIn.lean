import CostView.Column
import CostView.FieldTable.Basic

/-!
# The built-in equivalence table

Most columns keep their name from one generation to the other.  The columns `container_key` of
generation one that became keys of a map column are listed with their container and key.
-/

namespace CostView.FieldTable

/-- A column that has the same name in both generations. -/
def same (column : String) (type : SqlType) (isDefault : Bool) : FieldEntry :=
  ⟨column, Column.expr column, type, isDefault⟩

/-- A column that became the value of a key in a map column. -/
def keyed (container key : String) (type : SqlType) (isDefault : Bool) : FieldEntry :=
  ⟨flatColumn container key, .subscript (.column container) key, type, isDefault⟩

/-- Columns of the group `bill`. -/
def billEntries : List FieldEntry := [
  same "bill_bill_type" .varchar true,
  same "bill_billing_entity" .varchar true,
  same "bill_billing_period_end_date" .timestamp true,
  same "bill_billing_period_start_date" .timestamp true,
  same "bill_invoice_id" .varchar true,
  same "bill_invoicing_entity" .varchar false,
  same "bill_payer_account_id" .varchar true,
  same "bill_payer_account_name" .varchar false]

/-- Columns of the group `discount`. -/
def discountEntries : List FieldEntry := [
  same "discount_bundled_discount" .double false,
  same "discount_total_discount" .double false,
  keyed "discount" "edp_discount" .double false,
  keyed "discount" "private_rate_discount" .double false,
  keyed "discount" "spp_discount" .double false]

/-- Columns of the group `identity`. -/
def identityEntries : List FieldEntry := [
  same "identity_line_item_id" .varchar true,
  same "identity_time_interval" .varchar true]

/-- Columns of the group `line_item`. -/
def lineItemEntries : List FieldEntry := [
  same "line_item_availability_zone" .varchar true,
  same "line_item_blended_cost" .double false,
  same "line_item_blended_rate" .varchar false,
  same "line_item_currency_code" .varchar true,
  same "line_item_legal_entity" .varchar true,
  same "line_item_line_item_description" .varchar true,
  same "line_item_line_item_type" .varchar true,
  same "line_item_net_unblended_cost" .double false,
  same "line_item_net_unblended_rate" .varchar false,
  same "line_item_normalization_factor" .double false,
  same "line_item_normalized_usage_amount" .double false,
  same "line_item_operation" .varchar true,
  same "line_item_product_code" .varchar true,
  same "line_item_resource_id" .varchar true,
  same "line_item_tax_type" .varchar false,
  same "line_item_unblended_cost" .double true,
  same "line_item_unblended_rate" .varchar false,
  same "line_item_usage_account_id" .varchar true,
  same "line_item_usage_account_name" .varchar false,
  same "line_item_usage_amount" .double true,
  same "line_item_usage_end_date" .timestamp true,
  same "line_item_usage_start_date" .timestamp true,
  same "line_item_usage_type" .varchar true]

/-- Columns of the group `pricing`. -/
def pricingEntries : List FieldEntry := [
  same "pricing_currency" .varchar false,
  same "pricing_lease_contract_length" .varchar false,
  same "pricing_offering_class" .varchar false,
  same "pricing_public_on_demand_cost" .double true,
  same "pricing_public_on_demand_rate" .varchar false,
  same "pricing_purchase_option" .varchar false,
  same "pricing_rate_code" .varchar false,
  same "pricing_rate_id" .varchar false,
  same "pricing_term" .varchar true,
  same "pricing_unit" .varchar true]

/-- Columns of the group `product`. -/
def productEntries : List FieldEntry := [
  same "product_comment" .varchar false,
  same "product_fee_code" .varchar false,
  same "product_fee_description" .varchar false,
  same "product_from_location" .varchar false,
  same "product_from_location_type" .varchar false,
  same "product_from_region_code" .varchar false,
  same "product_instance_family" .varchar false,
  same "product_instance_type" .varchar true,
  same "product_instancesku" .varchar false,
  same "product_location" .varchar false,
  same "product_location_type" .varchar false,
  same "product_operation" .varchar false,
  same "product_pricing_unit" .varchar false,
  same "product_product_family" .varchar true,
  same "product_region_code" .varchar true,
  same "product_servicecode" .varchar true,
  same "product_sku" .varchar false,
  same "product_to_location" .varchar false,
  same "product_to_location_type" .varchar false,
  same "product_to_region_code" .varchar false,
  same "product_usagetype" .varchar false,
  keyed "product" "cache_engine" .varchar false,
  keyed "product" "clock_speed" .varchar false,
  keyed "product" "current_generation" .varchar false,
  keyed "product" "database_engine" .varchar true,
  keyed "product" "deployment_option" .varchar true,
  keyed "product" "group" .varchar false,
  keyed "product" "instance_type_family" .varchar false,
  keyed "product" "license_model" .varchar true,
  keyed "product" "memory" .varchar false,
  keyed "product" "operating_system" .varchar true,
  keyed "product" "physical_processor" .varchar false,
  keyed "product" "pre_installed_sw" .varchar false,
  keyed "product" "processor_architecture" .varchar false,
  keyed "product" "product_name" .varchar true,
  keyed "product" "region" .varchar true,
  keyed "product" "servicename" .varchar false,
  keyed "product" "storage" .varchar false,
  keyed "product" "storage_class" .varchar false,
  keyed "product" "tenancy" .varchar true,
  keyed "product" "transfer_type" .varchar false,
  keyed "product" "vcpu" .varchar false,
  keyed "product" "volume_api_name" .varchar false,
  keyed "product" "volume_type" .varchar false]

/-- Columns of the group `reservation`. -/
def reservationEntries : List FieldEntry := [
  same "reservation_amortized_upfront_cost_for_usage" .double true,
  same "reservation_amortized_upfront_fee_for_billing_period" .double false,
  same "reservation_availability_zone" .varchar false,
  same "reservation_effective_cost" .double true,
  same "reservation_end_time" .varchar false,
  same "reservation_modification_status" .varchar false,
  same "reservation_net_amortized_upfront_cost_for_usage" .double false,
  same "reservation_net_amortized_upfront_fee_for_billing_period" .double false,
  same "reservation_net_effective_cost" .double false,
  same "reservation_net_recurring_fee_for_usage" .double false,
  same "reservation_net_unused_amortized_upfront_fee_for_billing_period" .double false,
  same "reservation_net_unused_recurring_fee" .double false,
  same "reservation_net_upfront_value" .double false,
  same "reservation_normalized_units_per_reservation" .varchar false,
  same "reservation_number_of_reservations" .varchar false,
  same "reservation_recurring_fee_for_usage" .double true,
  same "reservation_reservation_a_r_n" .varchar true,
  same "reservation_start_time" .varchar false,
  same "reservation_subscription_id" .varchar false,
  same "reservation_total_reserved_normalized_units" .varchar false,
  same "reservation_total_reserved_units" .varchar false,
  same "reservation_units_per_reservation" .varchar false,
  same "reservation_unused_amortized_upfront_fee_for_billing_period" .double true,
  same "reservation_unused_normalized_unit_quantity" .double false,
  same "reservation_unused_quantity" .double false,
  same "reservation_unused_recurring_fee" .double true,
  same "reservation_upfront_value" .double false]

/-- Columns of the group `savings_plan`. -/
def savingsPlanEntries : List FieldEntry := [
  same "savings_plan_amortized_upfront_commitment_for_billing_period" .double true,
  same "savings_plan_end_time" .varchar false,
  same "savings_plan_instance_type_family" .varchar false,
  same "savings_plan_net_amortized_upfront_commitment_for_billing_period" .double false,
  same "savings_plan_net_recurring_commitment_for_billing_period" .double false,
  same "savings_plan_net_savings_plan_effective_cost" .double false,
  same "savings_plan_offering_type" .varchar false,
  same "savings_plan_payment_option" .varchar false,
  same "savings_plan_purchase_term" .varchar false,
  same "savings_plan_recurring_commitment_for_billing_period" .double true,
  same "savings_plan_region" .varchar false,
  same "savings_plan_savings_plan_a_r_n" .varchar true,
  same "savings_plan_savings_plan_effective_cost" .double true,
  same "savings_plan_savings_plan_rate" .double false,
  same "savings_plan_start_time" .varchar false,
  same "savings_plan_total_commitment_to_date" .double true,
  same "savings_plan_used_commitment" .double true]

/-- Columns of the group `split_line_item`. -/
def splitLineItemEntries : List FieldEntry := [
  same "split_line_item_actual_usage" .double false,
  same "split_line_item_net_split_cost" .double false,
  same "split_line_item_net_unused_cost" .double false,
  same "split_line_item_parent_resource_id" .varchar false,
  same "split_line_item_public_on_demand_split_cost" .double false,
  same "split_line_item_public_on_demand_unused_cost" .double false,
  same "split_line_item_reserved_usage" .double false,
  same "split_line_item_split_cost" .double false,
  same "split_line_item_split_usage" .double false,
  same "split_line_item_split_usage_ratio" .double false,
  same "split_line_item_unused_cost" .double false]

/-- The map columns of generation two. -/
def builtInMapFields : List MapField :=
  [⟨"product", .varchar⟩, ⟨"resource_tags", .varchar⟩, ⟨"cost_category", .varchar⟩,
    ⟨"discount", .double⟩]

/-- The built-in table. -/
def builtIn : FieldTable where
  version := "2024.11.1"
  mapFields := builtInMapFields
  entries := billEntries ++ discountEntries ++ identityEntries ++ lineItemEntries ++
    pricingEntries ++ productEntries ++ reservationEntries ++ savingsPlanEntries ++
    splitLineItemEntries

end CostView.FieldTable
