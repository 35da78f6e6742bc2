import Mkk.Api.Decision
import Mkk.Lib.Equality
import Mkk.Lib.Matching
import Mkk.Lib.Raises

/-!
# The catalog in the database

`validate_catalog_rows` compares the rows of the catalog table with the canonical catalog. The rows it
accepts are the copies of `catalog_readiness_rows` (`validateCatalogRows_ok_iff`); on the others it raises a
`CatalogReadinessError`, unless it gets to a row whose style is a text that is no JSON.
-/

namespace Mkk.Api

open Lib

/-! ## The canonical catalog -/

inductive StyleSilhouette where
  | boxy | cylindrical | rounded | slouchy | trapezoid | triangular
  deriving DecidableEq, Repr

def StyleSilhouette.value : StyleSilhouette → String
  | .boxy => "boxy" | .cylindrical => "cylindrical" | .rounded => "rounded"
  | .slouchy => "slouchy" | .trapezoid => "trapezoid" | .triangular => "triangular"

inductive VisualTone where
  | bold | casual | classic | minimal | refined | sporty
  deriving DecidableEq, Repr

def VisualTone.value : VisualTone → String
  | .bold => "bold" | .casual => "casual" | .classic => "classic" | .minimal => "minimal"
  | .refined => "refined" | .sporty => "sporty"

inductive UseCase where
  | daily | evening | travel | weekend | work
  deriving DecidableEq, Repr

def UseCase.value : UseCase → String
  | .daily => "daily" | .evening => "evening" | .travel => "travel" | .weekend => "weekend"
  | .work => "work"

structure ProductStyleV2 where
  silhouette : StyleSilhouette
  visualTone : VisualTone
  useCases : List UseCase
  useCasesBounded : LengthWithin 1 5 useCases
  useCasesUnique : useCases.Nodup
  deriving DecidableEq

/-- `model_dump(mode="json")`. -/
def ProductStyleV2.modelDump (style : ProductStyleV2) : Value :=
  .dict [("silhouette", .str style.silhouette.value), ("visual_tone", .str style.visualTone.value),
    ("use_cases", .list (style.useCases.map fun useCase => .str useCase.value))]

inductive SourceStatus where
  | demoPlaceholder
  | officialListingNameVerifiedAssetsPending
  | officialProductPageVerifiedAssetsPending
  | teamApprovedCatalogRecord
  deriving DecidableEq, Repr

def SourceStatus.value : SourceStatus → String
  | .demoPlaceholder => "demo_placeholder"
  | .officialListingNameVerifiedAssetsPending => "official_listing_name_verified_assets_pending"
  | .officialProductPageVerifiedAssetsPending => "official_product_page_verified_assets_pending"
  | .teamApprovedCatalogRecord => "team_approved_catalog_record"

/-- `ProductRecommendationItemV2` with the fields the database keeps; its category is always a bag. -/
structure CatalogItem extends ProductRecommendationItemV2 where
  displayName : String
  recommendationSummary : String
  style : ProductStyleV2
  approvedAsset : Bool
  sourceStatus : SourceStatus
  officialProductUrl : Option String
  officialProductUrlReason : Option String
  officialListingUrl : String
  imageAssetPath : Option String
  imageAssetPathReason : Option String
  qrAssetPath : Option String
  qrAssetPathReason : Option String
  sourceNote : String

/-- `ProductRecommendationProfileV2` as `load_canonical_catalog` returns it. -/
structure CanonicalCatalog where
  products : List CatalogItem
  tenProducts : products.length = 10
  idsUnique : (products.map (·.productId)).Nodup

/-! ## Rows -/

/-- A column as the driver returns it. -/
inductive Cell where
  | value (v : Value)
  | tuple (elements : List Value)

/-- `==` of two columns. -/
def Cell.equals : Cell → Cell → Bool
  | .value v, .value w => v.equals w
  | .tuple l, .tuple m => elementsEqual l m
  | _, _ => false

/-- A row, whose first column is a text. -/
structure CatalogRow where
  productId : String
  /-- The columns from the second on. -/
  columns : List Cell

def Cell.text (s : String) : Cell := .value (.str s)

/-- A text or null. -/
def Cell.optionalText : Option String → Cell
  | some s => .text s
  | none => .value .none

def CatalogItem.tags (product : CatalogItem) : List Value :=
  product.controlledTags.map fun tag => .str tag.value

/-- The columns of a product around its tags. -/
def CatalogItem.columns (product : CatalogItem) (tags : Cell) : List Cell :=
  [.text product.displayName,
    .text "bag",
    tags,
    .text product.recommendationSummary,
    .value product.style.modelDump,
    .value (.bool product.approvedAsset),
    .text product.sourceStatus.value,
    .optionalText product.officialProductUrl,
    .optionalText product.officialProductUrlReason,
    .text product.officialListingUrl,
    .optionalText product.imageAssetPath,
    .optionalText product.imageAssetPathReason,
    .optionalText product.qrAssetPath,
    .optionalText product.qrAssetPathReason,
    .text product.sourceNote]

/-- The row of a product. -/
def CatalogItem.readinessRow (product : CatalogItem) : CatalogRow where
  productId := product.productId
  columns := product.columns (.value (.list product.tags))

/-- `catalog_readiness_rows`. -/
def catalogReadinessRows (catalog : CanonicalCatalog) : List CatalogRow :=
  catalog.products.map (·.readinessRow)

/-- `expected[product_id]`; the ids are unique. -/
def CanonicalCatalog.expected (catalog : CanonicalCatalog) (productId : String) : Option (List Cell) :=
  (catalog.products.find? (·.productId == productId)).map fun product =>
    product.columns (.tuple product.tags)

/-! ## The comparison -/

/-- The reasons of `validate_catalog_rows`. -/
inductive ReadinessReasonCode where
  | catalogCountMismatch
  | catalogProductMismatch
  | catalogContentMismatch
  deriving DecidableEq

/-- What `validate_catalog_rows` raises: a `CatalogReadinessError`, what `json.loads` raises, or a
`KeyError`. -/
inductive RowsError (ε : Type) where
  | readiness (reason : ReadinessReasonCode)
  | json (e : ε)
  | key

section

variable {ε : Type} (loads : String → Except ε Value)

/-- `_normalise_json`. -/
def normaliseJson : Cell → Except ε Cell
  | .value (.str s) => .value <$> loads s
  | column => .ok column

/-- A list or a tuple as a tuple. -/
def Cell.asTuple : Cell → Cell
  | .value (.list l) => .tuple l
  | column => column

/-- A column by its number: the tags become a tuple, and the style is decoded. -/
def normaliseColumn (i : ℕ) (column : Cell) : Except ε Cell :=
  if i = 3 then .ok column.asTuple
  else if i = 5 then normaliseJson loads column
  else .ok column

/-- `actual`, from this column on. -/
def actualColumns : ℕ → List Cell → Except ε (List Cell)
  | _, [] => .ok []
  | i, column :: rest => do
    let column ← normaliseColumn loads i column
    let rest ← actualColumns (i + 1) rest
    return column :: rest

/-- `==` of two tuples of columns. -/
def columnsEqual : List Cell → List Cell → Bool
  | [], [] => true
  | a :: rest, b :: rest' => a.equals b && columnsEqual rest rest'
  | _, _ => false

/-- One row of `validate_catalog_rows`. -/
def checkRow (catalog : CanonicalCatalog) (row : CatalogRow) : Except (RowsError ε) Unit := do
  if row.columns.length ≠ 15 then throw (.readiness .catalogContentMismatch)
  let actual ← (actualColumns loads 1 row.columns).mapError .json
  match catalog.expected row.productId with
  | none => throw .key
  | some expected =>
    if columnsEqual actual expected then return () else throw (.readiness .catalogContentMismatch)

/-- `validate_catalog_rows`. -/
def validateCatalogRows (rows : List CatalogRow) (catalog : CanonicalCatalog) :
    Except (RowsError ε) Unit := do
  if rows.length ≠ 10 then throw (.readiness .catalogCountMismatch)
  if (rows.map (·.productId)).toFinset ≠ (catalog.products.map (·.productId)).toFinset then
    throw (.readiness .catalogProductMismatch)
  forM rows (checkRow loads catalog)

/-! ## Copies -/

/-- Two columns with this number are the same: the tags as a list or as a tuple, the style as a value or
as its JSON text, the others as they are. -/
def SameColumn (i : ℕ) (a b : Cell) : Prop :=
  if i = 3 then a.asTuple.equals b.asTuple = true
  else if i = 5 then ∃ v w, normaliseJson loads a = .ok v ∧ normaliseJson loads b = .ok w ∧ v.equals w = true
  else a.equals b = true

/-- Two rows are the same from this column on. -/
def SameColumns : ℕ → List Cell → List Cell → Prop
  | _, [], [] => True
  | i, a :: rest, b :: rest' => SameColumn loads i a b ∧ SameColumns (i + 1) rest rest'
  | _, _, _ => False

structure SameRow (row original : CatalogRow) : Prop where
  productId : row.productId = original.productId
  columns : SameColumns loads 1 row.columns original.columns

/-- The rows are a permutation of those of the catalog. -/
def CopyOf (rows : List CatalogRow) (catalog : CanonicalCatalog) : Prop :=
  Multiset.Rel (SameRow loads) (rows : Multiset CatalogRow) (catalogReadinessRows catalog : List CatalogRow)

/-- The rows have the ids of the catalog. -/
def SameIds (rows : List CatalogRow) (catalog : CanonicalCatalog) : Prop :=
  ∀ id, id ∈ rows.map (·.productId) ↔ id ∈ catalog.products.map (·.productId)

/-- The comparison gets to a row of 16 columns whose style is a text that cannot be decoded. -/
structure ReachesUnreadable (rows : List CatalogRow) (catalog : CanonicalCatalog) : Prop where
  count : rows.length = 10
  ids : SameIds rows catalog
  style : ∃ before row after, rows = before ++ row :: after ∧
    (∀ earlier ∈ before, ∃ original ∈ catalogReadinessRows catalog, SameRow loads earlier original) ∧
    row.columns.length = 15 ∧
    ∃ s e, row.columns[4]? = some (.text s) ∧ loads s = .error e

/-- The rows are accepted exactly when they are a copy, and refused with a `CatalogReadinessError`
otherwise. -/
structure ComparesCatalog (rows : List CatalogRow) (catalog : CanonicalCatalog) : Prop where
  accepts : validateCatalogRows loads rows catalog = .ok () ↔ CopyOf loads rows catalog
  refuses : ¬CopyOf loads rows catalog →
    ∃ reason, validateCatalogRows loads rows catalog = .error (.readiness reason)

end

/-! ## Columns -/

section

variable {ε : Type} {loads : String → Except ε Value} {i : ℕ} {a b : Cell} {columns originals : List Cell} {e : ε}

theorem SameColumns.length_eq (h : SameColumns loads i columns originals) :
    columns.length = originals.length := by
  induction columns generalizing i originals with
  | nil =>
    cases originals with
    | nil => rfl
    | cons b rest => exact h.elim
  | cons a rest ih =>
    cases originals with
    | nil => exact h.elim
    | cons b rest' => rw [List.length_cons, List.length_cons, ih h.2]

/-- Columns are the same when they are equal once both are normalised. -/
theorem sameColumn_iff : SameColumn loads i a b ↔
    ∃ v w, normaliseColumn loads i a = .ok v ∧ normaliseColumn loads i b = .ok w ∧ v.equals w = true := by
  unfold SameColumn normaliseColumn
  split_ifs
  · simp only [Except.ok.injEq, exists_and_left, exists_eq_left']
  · rfl
  · simp only [Except.ok.injEq, exists_and_left, exists_eq_left']

theorem sameColumns_iff : SameColumns loads i columns originals ↔
    ∃ v w, actualColumns loads i columns = .ok v ∧ actualColumns loads i originals = .ok w ∧
      columnsEqual v w = true := by
  induction columns generalizing i originals with
  | nil =>
    cases originals with
    | nil => exact ⟨fun _ => ⟨[], [], rfl, rfl, rfl⟩, fun _ => trivial⟩
    | cons b rest =>
      refine ⟨fun h => h.elim, ?_⟩
      rintro ⟨v, w, read, original, equal⟩
      cases read
      rw [actualColumns] at original
      obtain ⟨column, -, original⟩ := bind_eq_ok_iff.1 original
      obtain ⟨_, -, original⟩ := bind_eq_ok_iff.1 original
      cases original
      cases equal
  | cons a rest ih =>
    cases originals with
    | nil =>
      refine ⟨fun h => h.elim, ?_⟩
      rintro ⟨v, w, read, original, equal⟩
      cases original
      rw [actualColumns] at read
      obtain ⟨column, -, read⟩ := bind_eq_ok_iff.1 read
      obtain ⟨_, -, read⟩ := bind_eq_ok_iff.1 read
      cases read
      cases equal
    | cons b rest' =>
      rw [SameColumns, sameColumn_iff, ih, actualColumns, actualColumns]
      simp only [bind_eq_ok_iff, pure, Except.pure, Except.ok.injEq]
      constructor
      · rintro ⟨⟨v, w, read, original, equal⟩, vs, ws, reads, originals, equals⟩
        exact ⟨v :: vs, w :: ws, ⟨v, read, vs, reads, rfl⟩, ⟨w, original, ws, originals, rfl⟩, by
          rw [columnsEqual, equal, equals, Bool.and_self]⟩
      · rintro ⟨_, _, ⟨v, read, vs, reads, rfl⟩, ⟨w, original, ws, originals, rfl⟩, equals⟩
        rw [columnsEqual, Bool.and_eq_true] at equals
        exact ⟨⟨v, w, read, original, equals.1⟩, vs, ws, reads, originals, equals.2⟩

theorem normaliseJson_error_iff :
    normaliseJson loads a = .error e ↔ ∃ s, a = .text s ∧ loads s = .error e := by
  unfold normaliseJson Cell.text
  split
  next s =>
    simp only [Cell.value.injEq, Value.str.injEq, exists_eq_left']
    cases loads s with
    | ok v => exact ⟨nofun, nofun⟩
    | error d =>
      change Except.error d = .error e ↔ _
      rw [Except.error.injEq, Except.error.injEq]
  next other => exact ⟨nofun, fun ⟨s, same, _⟩ => absurd same (other s)⟩

/-- Only a style that is a text raises. -/
theorem normaliseColumn_error_iff : normaliseColumn loads i a = .error e ↔
    i = 5 ∧ ∃ s, a = .text s ∧ loads s = .error e := by
  unfold normaliseColumn
  split_ifs with tags style
  · exact ⟨nofun, fun h => absurd (tags.symm.trans h.1) (by decide)⟩
  · rw [normaliseJson_error_iff, and_iff_right style]
  · exact ⟨nofun, fun h => absurd h.1 style⟩

theorem actualColumns_error_iff : actualColumns loads i columns = .error e ↔
    i ≤ 5 ∧ ∃ s, columns[5 - i]? = some (.text s) ∧ loads s = .error e := by
  induction columns generalizing i with
  | nil => exact ⟨nofun, fun ⟨_, s, found, _⟩ => nomatch found⟩
  | cons a rest ih =>
    rw [actualColumns]
    simp only [bind_eq_error_iff, normaliseColumn_error_iff, ih, pure, Except.pure, reduceCtorEq, and_false,
      exists_false, or_false]
    rcases lt_trichotomy i 5 with before | rfl | after
    · obtain ⟨column, read⟩ : ∃ column, normaliseColumn loads i a = .ok column := by
        cases read : normaliseColumn loads i a with
        | ok column => exact ⟨column, rfl⟩
        | error d => exact absurd (normaliseColumn_error_iff.1 read).1 before.ne
      rw [show 5 - i = 5 - (i + 1) + 1 by omega, List.getElem?_cons_succ]
      constructor
      · rintro (⟨same, -⟩ | ⟨_, -, -, found⟩)
        · exact absurd same before.ne
        · exact ⟨before.le, found⟩
      · rintro ⟨-, found⟩
        exact .inr ⟨column, read, before, found⟩
    · rw [Nat.sub_self, List.getElem?_cons_zero]
      constructor
      · rintro (⟨-, s, rfl, raised⟩ | ⟨_, -, small, -⟩)
        · exact ⟨le_rfl, s, rfl, raised⟩
        · omega
      · rintro ⟨-, s, found, raised⟩
        exact .inl ⟨rfl, s, Option.some.inj found, raised⟩
    · constructor
      · rintro (⟨same, -⟩ | ⟨_, -, small, -⟩)
        · exact absurd same after.ne'
        · omega
      · rintro ⟨small, -⟩
        omega

/-! ## Rows -/

variable {catalog : CanonicalCatalog} {rows : List CatalogRow} {row : CatalogRow} {product : CatalogItem}

/-- The row of a product, normalised, is what is expected of it. -/
theorem actualColumns_readinessRow :
    actualColumns loads 1 product.readinessRow.columns = .ok (product.columns (.tuple product.tags)) := by
  rfl

theorem expected_eq (member : product ∈ catalog.products) :
    catalog.expected product.productId = some (product.columns (.tuple product.tags)) := by
  unfold CanonicalCatalog.expected
  obtain ⟨found, first⟩ : ∃ found, catalog.products.find? (·.productId == product.productId) = some found :=
    Option.isSome_iff_exists.1 (List.find?_isSome.2 ⟨product, member, beq_self_eq_true _⟩)
  have id : found.productId = product.productId := by simpa using List.find?_some first
  have same : found = product :=
    List.inj_on_of_nodup_map catalog.idsUnique (List.mem_of_find?_eq_some first) member id
  rw [first, Option.map_some, same]

theorem checkRow_eq (member : product ∈ catalog.products) (id : row.productId = product.productId) :
    checkRow loads catalog row =
      if row.columns.length ≠ 15 then .error (.readiness .catalogContentMismatch)
      else match actualColumns loads 1 row.columns with
        | .error e => .error (.json e)
        | .ok actual =>
          if columnsEqual actual (product.columns (.tuple product.tags)) then .ok ()
          else .error (.readiness .catalogContentMismatch) := by
  unfold checkRow
  rw [id, expected_eq member]
  split_ifs with length
  · rfl
  · cases actualColumns loads 1 row.columns with
    | ok actual => rfl
    | error e => rfl

theorem checkRow_ok_iff (member : product ∈ catalog.products) (id : row.productId = product.productId) :
    checkRow loads catalog row = .ok () ↔ SameRow loads row product.readinessRow := by
  have same : SameRow loads row product.readinessRow ↔ ∃ actual, actualColumns loads 1 row.columns = .ok actual ∧
      columnsEqual actual (product.columns (.tuple product.tags)) = true := by
    constructor
    · intro h
      obtain ⟨actual, w, read, original, equal⟩ := sameColumns_iff.1 h.columns
      cases actualColumns_readinessRow.symm.trans original
      exact ⟨actual, read, equal⟩
    · rintro ⟨actual, read, equal⟩
      exact ⟨id, sameColumns_iff.2 ⟨actual, _, read, actualColumns_readinessRow, equal⟩⟩
  rw [checkRow_eq member id]
  split_ifs with length
  · exact ⟨nofun, fun h => absurd h.columns.length_eq length⟩
  · rw [same]
    split
    next e raised => exact ⟨nofun, fun ⟨actual, read, _⟩ => nomatch raised.symm.trans read⟩
    next actual read =>
      split_ifs with equal
      · exact ⟨fun _ => ⟨actual, read, equal⟩, fun _ => rfl⟩
      · exact ⟨nofun, fun ⟨_, read', equal'⟩ => by cases read.symm.trans read'; exact absurd equal' equal⟩

/-- What a row of the catalog's products raises other than a `CatalogReadinessError`. -/
theorem checkRow_json_iff (member : product ∈ catalog.products) (id : row.productId = product.productId) :
    checkRow loads catalog row = .error (.json e) ↔
      row.columns.length = 15 ∧ ∃ s, row.columns[4]? = some (.text s) ∧ loads s = .error e := by
  have unread : actualColumns loads 1 row.columns = .error e ↔
      ∃ s, row.columns[4]? = some (.text s) ∧ loads s = .error e := by
    rw [actualColumns_error_iff, and_iff_right (by decide)]
  rw [checkRow_eq member id, ← unread]
  split_ifs with length
  · exact ⟨nofun, fun h => absurd h.1 length⟩
  · rw [and_iff_right (not_not.1 length)]
    split
    next d raised => rw [raised, Except.error.injEq, Except.error.injEq, RowsError.json.injEq]
    next actual read =>
      rw [read]
      split_ifs
      · exact ⟨nofun, nofun⟩
      · exact ⟨nofun, nofun⟩

theorem checkRow_ne_key (member : product ∈ catalog.products) (id : row.productId = product.productId) :
    checkRow loads catalog row ≠ .error .key := by
  rw [checkRow_eq member id]
  split_ifs
  · exact nofun
  · split
    · exact nofun
    · split_ifs <;> exact nofun

/-! ## Lists of rows -/

theorem validateCatalogRows_eq : validateCatalogRows loads rows catalog =
    if rows.length ≠ 10 then .error (.readiness .catalogCountMismatch)
    else if (rows.map (·.productId)).toFinset ≠ (catalog.products.map (·.productId)).toFinset then
      .error (.readiness .catalogProductMismatch)
    else forM rows (checkRow loads catalog) := by
  unfold validateCatalogRows
  split_ifs <;> rfl

theorem sameIds_iff : (rows.map (·.productId)).toFinset = (catalog.products.map (·.productId)).toFinset ↔
    SameIds rows catalog := by
  rw [Finset.ext_iff]
  simp only [List.mem_toFinset]
  rfl

theorem exists_product (ids : SameIds rows catalog) (member : row ∈ rows) :
    ∃ product ∈ catalog.products, row.productId = product.productId := by
  obtain ⟨product, found, same⟩ := List.mem_map.1 ((ids _).1 (List.mem_map_of_mem member))
  exact ⟨product, found, same.symm⟩

theorem mem_catalogReadinessRows_iff {original : CatalogRow} : original ∈ catalogReadinessRows catalog ↔
    ∃ product ∈ catalog.products, product.readinessRow = original := List.mem_map

theorem ids_catalogReadinessRows :
    (catalogReadinessRows catalog).map (·.productId) = catalog.products.map (·.productId) := by
  unfold catalogReadinessRows
  rw [List.map_map]
  rfl

/-- A row is accepted when it is the same as one of the catalog's. -/
theorem checkRow_ok_iff_exists (ids : SameIds rows catalog) (member : row ∈ rows) :
    checkRow loads catalog row = .ok () ↔ ∃ original ∈ catalogReadinessRows catalog, SameRow loads row original := by
  obtain ⟨product, found, id⟩ := exists_product ids member
  rw [checkRow_ok_iff found id]
  constructor
  · intro same
    exact ⟨_, mem_catalogReadinessRows_iff.2 ⟨product, found, rfl⟩, same⟩
  · rintro ⟨_, listed, same⟩
    obtain ⟨other, found', rfl⟩ := mem_catalogReadinessRows_iff.1 listed
    have unique : product = other :=
      List.inj_on_of_nodup_map catalog.idsUnique found found' (id.symm.trans same.productId)
    exact unique ▸ same

theorem copyOf_iff : CopyOf loads rows catalog ↔ rows.length = 10 ∧ SameIds rows catalog ∧
    ∀ row ∈ rows, checkRow loads catalog row = .ok () := by
  have distinct : ((catalogReadinessRows catalog : Multiset CatalogRow).map (·.productId)).Nodup := by
    rw [Multiset.map_coe, ids_catalogReadinessRows]
    exact catalog.idsUnique
  unfold CopyOf
  rw [rel_iff_of_key (fun _ _ same => same.productId) distinct]
  simp only [Multiset.map_coe, ids_catalogReadinessRows, Multiset.mem_coe, Multiset.coe_card]
  rw [show (catalogReadinessRows catalog).length = 10 from (List.length_map _).trans catalog.tenProducts]
  refine and_congr_right fun _ => and_congr_right fun ids => forall₂_congr fun row member => ?_
  obtain ⟨product, found, id⟩ := exists_product ids member
  rw [checkRow_ok_iff found id]
  constructor
  · intro each
    exact each _ (mem_catalogReadinessRows_iff.2 ⟨product, found, rfl⟩) id
  · intro same original listed equal
    obtain ⟨other, found', rfl⟩ := mem_catalogReadinessRows_iff.1 listed
    have unique : product = other := List.inj_on_of_nodup_map catalog.idsUnique found found' (id.symm.trans equal)
    exact unique ▸ same

@[simp] theorem Cell.equals_value (v w : Value) : (Cell.value v).equals (.value w) = v.equals w := rfl

@[simp] theorem Cell.equals_tuple (l m : List Value) :
    (Cell.tuple l).equals (.tuple m) = elementsEqual l m := rfl

@[simp] theorem text_equals (s : String) : (Cell.text s).equals (.text s) = true :=
  (Value.equals_str s s).trans (beq_self_eq_true s)

theorem optionalText_equals (value : Option String) :
    (Cell.optionalText value).equals (Cell.optionalText value) = true := by
  cases value with
  | none => exact Value.equals_none
  | some s => exact text_equals s

theorem modelDump_equals (style : ProductStyleV2) : style.modelDump.equals style.modelDump = true := by
  have useCases : style.useCases.map (fun useCase => Value.str useCase.value) =
      (style.useCases.map UseCase.value).map .str := (List.map_map).symm
  unfold ProductStyleV2.modelDump
  have same := elementsEqual_texts (style.useCases.map UseCase.value)
  rw [useCases, Value.equals, Bool.and_eq_true]
  generalize style.useCases.map UseCase.value = texts at same ⊢
  exact ⟨by rfl, by simp [membersEqual, same]⟩

/-- The rows of the catalog themselves are a copy. -/
theorem copyOf_catalogReadinessRows : CopyOf loads (catalogReadinessRows catalog) catalog := by
  refine Multiset.rel_refl_of_refl_on fun row listed => ?_
  obtain ⟨product, -, rfl⟩ := mem_catalogReadinessRows_iff.1 (Multiset.mem_coe.1 listed)
  refine ⟨rfl, sameColumns_iff.2 ⟨_, _, actualColumns_readinessRow, actualColumns_readinessRow, ?_⟩⟩
  have tags : elementsEqual product.tags product.tags = true := by
    have texts : product.tags = (product.controlledTags.map ControlledTag.value).map .str :=
      (List.map_map).symm
    rw [texts]
    exact elementsEqual_texts _
  simp [CatalogItem.columns, columnsEqual, optionalText_equals, modelDump_equals, tags]

/-- **What is accepted.** -/
theorem validateCatalogRows_ok_iff :
    validateCatalogRows loads rows catalog = .ok () ↔ CopyOf loads rows catalog := by
  rw [validateCatalogRows_eq, copyOf_iff, ← sameIds_iff]
  split_ifs with count ids
  · exact ⟨nofun, fun h => absurd h.1 count⟩
  · exact ⟨nofun, fun h => absurd h.2.1 ids⟩
  · rw [forM_eq_ok_iff, and_iff_right (not_not.1 count), and_iff_right (not_not.1 ids)]

theorem validateCatalogRows_ne_key : validateCatalogRows loads rows catalog ≠ .error .key := by
  rw [validateCatalogRows_eq]
  split_ifs with count ids
  · exact nofun
  · exact nofun
  · intro raised
    obtain ⟨before, row, after, rfl, -, raised⟩ := forM_eq_error_iff.1 raised
    have member : row ∈ before ++ row :: after := List.mem_append_right _ (List.mem_cons_self)
    obtain ⟨product, found, id⟩ := exists_product (sameIds_iff.1 (not_not.1 ids)) member
    exact checkRow_ne_key found id raised

/-- What `json.loads` raises is raised exactly when the comparison gets to a style it cannot read. -/
theorem exists_json_iff : (∃ e, validateCatalogRows loads rows catalog = .error (.json e)) ↔
    ReachesUnreadable loads rows catalog := by
  constructor
  · rintro ⟨e, raised⟩
    rw [validateCatalogRows_eq] at raised
    have count : rows.length = 10 := by
      by_contra other
      rw [if_pos other] at raised
      cases raised
    have ids : SameIds rows catalog := by
      rw [if_neg (not_not.2 count)] at raised
      by_contra other
      rw [if_pos fun same => other (sameIds_iff.1 same)] at raised
      cases raised
    rw [if_neg (not_not.2 count), if_neg (not_not.2 (sameIds_iff.2 ids))] at raised
    refine ⟨count, ids, ?_⟩
    obtain ⟨before, row, after, same, passed, raised⟩ := forM_eq_error_iff.1 raised
    have member : row ∈ rows := same ▸ List.mem_append_right _ (List.mem_cons_self)
    obtain ⟨product, found, id⟩ := exists_product ids member
    obtain ⟨length, s, style, unread⟩ := (checkRow_json_iff found id).1 raised
    refine ⟨before, row, after, same, fun earlier first => ?_, length, s, e, style, unread⟩
    have listed : earlier ∈ rows := same ▸ List.mem_append_left _ first
    exact (checkRow_ok_iff_exists ids listed).1 (passed earlier first)
  · rintro ⟨count, ids, before, row, after, same, passed, length, s, e, style, unread⟩
    refine ⟨e, ?_⟩
    rw [validateCatalogRows_eq, if_neg (not_not.2 count), if_neg (not_not.2 (sameIds_iff.2 ids)),
      forM_eq_error_iff]
    have member : row ∈ rows := same ▸ List.mem_append_right _ (List.mem_cons_self)
    obtain ⟨product, found, id⟩ := exists_product ids member
    refine ⟨before, row, after, same, fun earlier first => ?_,
      (checkRow_json_iff found id).2 ⟨length, s, style, unread⟩⟩
    have listed : earlier ∈ rows := same ▸ List.mem_append_left _ first
    exact (checkRow_ok_iff_exists ids listed).2 (passed earlier first)

end

/-- **The comparison with the catalog.** Rows are accepted exactly when they are a copy of the catalog's,
and refused with a `CatalogReadinessError` otherwise, exactly when it does not get to a style that is a text
and no JSON. -/
theorem catalog_rows_compared {ε : Type} (loads : String → Except ε Value) (rows : List CatalogRow)
    (catalog : CanonicalCatalog) :
    ComparesCatalog loads rows catalog ↔ ¬ReachesUnreadable loads rows catalog := by
  rw [← exists_json_iff]
  constructor
  · rintro ⟨accepts, refuses⟩ ⟨e, raised⟩
    obtain ⟨reason, refused⟩ := refuses fun copy => nomatch (accepts.2 copy).symm.trans raised
    cases refused.symm.trans raised
  · intro readable
    refine ⟨validateCatalogRows_ok_iff, fun altered => ?_⟩
    cases result : validateCatalogRows loads rows catalog with
    | ok _ => exact absurd (validateCatalogRows_ok_iff.1 result) altered
    | error e =>
      cases e with
      | readiness reason => exact ⟨reason, rfl⟩
      | json e => exact absurd ⟨e, result⟩ readable
      | key => exact absurd result validateCatalogRows_ne_key

/-! ## A style that is a JSON string -/

def demoItem (i : Fin 10) : CatalogItem where
  productId := "bag-" ++ toString i.val
  controlledTags := [.classic, .daily, .work]
  productIdOk := by revert i; decide
  tagsBounded := by decide
  tagsUnique := by decide
  displayName := "Bag"
  recommendationSummary := "A bag."
  style := ⟨.boxy, .classic, [.daily], by decide, by decide⟩
  approvedAsset := false
  sourceStatus := .demoPlaceholder
  officialProductUrl := none
  officialProductUrlReason := some "pending"
  officialListingUrl := "https://example.test/bags"
  imageAssetPath := none
  imageAssetPathReason := some "pending"
  qrAssetPath := none
  qrAssetPathReason := some "pending"
  sourceNote := "A placeholder."

def demoCatalog : CanonicalCatalog where
  products := (List.finRange 10).map demoItem
  tenProducts := by decide
  idsUnique := by decide +kernel

/-- The rows of the catalog, but for the style of the first, which is the text `boxy`. -/
def stringStyleRows : List CatalogRow :=
  { (demoItem 0).readinessRow with columns := (demoItem 0).readinessRow.columns.set 4 (.text "boxy") } ::
    (catalogReadinessRows demoCatalog).tail

/-- `json.loads` on this text, which is no JSON. -/
def loadsBoxy (_ : String) : Except Unit Value := .error ()

/-- The altered row is not refused with a `CatalogReadinessError`. -/
theorem string_style_raises : ¬ComparesCatalog loadsBoxy stringStyleRows demoCatalog := by
  have ids : stringStyleRows.map (·.productId) = demoCatalog.products.map (·.productId) := by decide +kernel
  have reached : ReachesUnreadable loadsBoxy stringStyleRows demoCatalog :=
    ⟨by decide, fun id => by rw [ids], [], _, _, rfl, nofun, by decide, "boxy", (), rfl, rfl⟩
  obtain ⟨e, raised⟩ := exists_json_iff.2 reached
  rintro ⟨accepts, refuses⟩
  obtain ⟨reason, refused⟩ := refuses fun copy => nomatch (accepts.2 copy).symm.trans raised
  cases refused.symm.trans raised

end Mkk.Api
