import ActionGraph.Proofs.Wire.Records
import ActionGraph.Toml.Decode

/-!
# Integers of documents

An integer is read only if it fits into 64 bits with its sign, and no table
that is put together of such integers has another one.  So no decoder ever
sees an integer of a document that is 2⁶³ or more.
-/

namespace ActionGraph.Toml

inductive Item.Fits : Item → Prop
  | string (value : String) : Fits (.string value)
  | integer {value : Int} (above : -0x8000000000000000 ≤ value)
      (below : value < 0x8000000000000000) : Fits (.integer value)
  | float (value : Binary64) : Fits (.float value)
  | boolean (value : Bool) : Fits (.boolean value)
  | time (text : String) : Fits (.time text)
  | array {items : List Item} (each : ∀ item ∈ items, Fits item) : Fits (.array items)
  | table {kind : Kind} {entries : Entries} (each : ∀ entry ∈ entries, Fits entry.2) :
      Fits (.table kind entries)
  | tables {elements : List Entries}
      (each : ∀ entries ∈ elements, ∀ entry ∈ entries, Fits entry.2) : Fits (.tables elements)

/-! ## Tables -/

def Table.Fits (t : Table) : Prop :=
  ∀ entry ∈ t.entries, entry.2.Fits

theorem Item.Fits.of_table {kind : Kind} {entries : Entries}
    (fits : (Item.table kind entries).Fits) (other : Kind) : (Table.mk other entries).Fits := by
  cases fits with
  | table each => exact each

theorem Item.Fits.of_tables {elements : List Entries} (fits : (Item.tables elements).Fits)
    {entries : Entries} (mem : entries ∈ elements) (kind : Kind) :
    (Table.mk kind entries).Fits := by
  cases fits with
  | tables each => exact each entries mem

theorem Item.Fits.concat {elements : List Entries} {t : Table}
    (each : ∀ entries ∈ elements, ∀ entry ∈ entries, Item.Fits entry.2) (last : t.Fits) :
    (Item.tables (elements ++ [t.entries])).Fits :=
  .tables (List.forall_mem_append.mpr ⟨each, List.forall_mem_singleton.mpr last⟩)

namespace Table

theorem fits_empty (kind : Kind) : (empty kind).Fits :=
  List.forall_mem_nil _

variable {t after : Table} {key : String} {item : Item}

theorem Fits.get? (fits : t.Fits) (found : t.get? key = some item) : item.Fits := by
  obtain ⟨entry, there, rfl⟩ := Option.map_eq_some_iff.mp found
  exact fits entry (List.mem_of_find?_eq_some there)

theorem Fits.put (fits : t.Fits) (good : item.Fits) (key : String) : (t.put key item).Fits := by
  unfold Table.put
  split
  · refine List.forall_mem_map.mpr fun entry mem => ?_
    split
    · exact good
    · exact fits entry mem
  · exact List.forall_mem_append.mpr ⟨fits, List.forall_mem_singleton.mpr good⟩

theorem Fits.erase (fits : t.Fits) (key : String) : (t.erase key).Fits :=
  fun entry mem => fits entry (List.mem_of_mem_filter mem)

/-- A change at the end of a path keeps what it keeps there. -/
theorem Fits.alter {dotted : Bool} {f : Table → Option Table}
    (keeps : ∀ t after, t.Fits → f t = some after → after.Fits) {path : List String}
    (fits : t.Fits) (altered : alter dotted f path t = some after) : after.Fits := by
  induction path generalizing t after with
  | nil => exact keeps t after fits altered
  | cons key path ih =>
      rw [Table.alter] at altered
      split at altered
      · obtain ⟨inner, made, same⟩ := Option.bind_eq_some_iff.mp altered
        cases same
        exact fits.put (.table (ih (fits_empty _) made)) key
      · rename_i kind entries found
        split at altered
        · cases altered
        · obtain ⟨inner, made, same⟩ := Option.bind_eq_some_iff.mp altered
          cases same
          exact fits.put (.table (ih ((fits.get? found).of_table _) made)) key
      · rename_i elements found
        split at altered
        · cases altered
        · rename_i last ended
          obtain ⟨inner, made, same⟩ := Option.bind_eq_some_iff.mp altered
          cases same
          have listed := fits.get? found
          have inside := ih (listed.of_tables (List.mem_of_getLast? ended) _) made
          refine fits.put (.concat (fun entries mem => ?_) inside) key
          exact listed.of_tables ((List.dropLast_sublist _).subset mem) .header
      · cases altered

theorem Fits.insert {path : List String} (fits : t.Fits) (good : item.Fits)
    (inserted : t.insert path key item = some after) : after.Fits := by
  refine fits.alter (fun t after fits put => ?_) inserted
  split at put
  · cases put
  · split at put
    · cases put
    · cases put
      exact fits.put good key

theorem Fits.ofPairs {pairs : List Pair} (fits : t.Fits)
    (good : ∀ pair ∈ pairs, pair.2.2.Fits) (made : ofPairs t pairs = some after) :
    after.Fits := by
  induction pairs generalizing t with
  | nil =>
      cases made
      exact fits
  | cons pair rest ih =>
      obtain ⟨here, later⟩ := List.forall_mem_cons.mp good
      obtain ⟨next, inserted, made⟩ := Option.bind_eq_some_iff.mp made
      exact ih (fits.insert here inserted) later made

end Table

/-! ## Values -/

theorem fits_of_integerItem? {value : Int} {item : Item} (made : integerItem? value = some item) :
    item.Fits := by
  unfold integerItem? at made
  split at made
  · rename_i range
    cases made
    exact .integer range.1 range.2
  · cases made

theorem fits_of_based? {base : Nat} {cs rest : List Char} {item : Item}
    (read : based? base cs = some (item, rest)) : item.Fits := by
  obtain ⟨_, _, read⟩ := Option.bind_eq_some_iff.mp read
  obtain ⟨_, made, same⟩ := Option.bind_eq_some_iff.mp read
  cases same
  exact fits_of_integerItem? made

theorem fits_of_integer? {cs rest : List Char} {item : Item}
    (read : integer? cs = some (item, rest)) : item.Fits := by
  unfold integer? at read
  split at read
  · exact fits_of_based? read
  · exact fits_of_based? read
  · exact fits_of_based? read
  · obtain ⟨_, _, read⟩ := Option.bind_eq_some_iff.mp read
    obtain ⟨_, made, same⟩ := Option.bind_eq_some_iff.mp read
    cases same
    exact fits_of_integerItem? made

theorem fits_of_floatItem? {negative : Bool} {digits : List Nat} {power : Int} {item : Item}
    (made : floatItem? negative digits power = some item) : item.Fits := by
  unfold floatItem? at made
  dsimp only at made
  split at made
  · cases made
  · cases made
    exact .float _

theorem fits_of_decimal? {cs rest : List Char} {item : Item}
    (read : decimal? cs = some (item, rest)) : item.Fits := by
  obtain ⟨⟨front, behind⟩, _, read⟩ := Option.bind_eq_some_iff.mp read
  dsimp only at read
  split at read
  · obtain ⟨_, made, same⟩ := Option.bind_eq_some_iff.mp read
    cases same
    exact fits_of_floatItem? made
  · split at read
    · obtain ⟨_, _, read⟩ := Option.bind_eq_some_iff.mp read
      obtain ⟨_, made, same⟩ := Option.bind_eq_some_iff.mp read
      cases same
      exact fits_of_floatItem? made
    · cases read

theorem fits_of_named? {cs rest : List Char} {item : Item}
    (read : named? cs = some (item, rest)) : item.Fits := by
  unfold named? at read
  dsimp only at read
  split at read
  · cases read
    exact .float _
  · cases read
    exact .float _
  · cases read

theorem fits_of_time? {cs rest : List Char} {item : Item}
    (read : time? cs = some (item, rest)) : item.Fits := by
  unfold time? at read
  split at read
  · split at read
    · split at read
      · split at read
        · cases read
          exact .time _
        · cases read
          exact .time _
      · cases read
        exact .time _
    · cases read
      exact .time _
  · obtain ⟨_, _, same⟩ := Option.map_eq_some_iff.mp read
    cases same
    exact .time _

theorem fits_of_number? {cs rest : List Char} {item : Item}
    (read : number? cs = some (item, rest)) : item.Fits := by
  unfold number? at read
  simp only [Option.orElse_eq_orElse, Option.orElse_eq_or, Option.or_eq_some_iff] at read
  rcases read with time | ⟨_, decimal | ⟨_, named | ⟨_, integer⟩⟩⟩
  · exact fits_of_time? time
  · exact fits_of_decimal? decimal
  · exact fits_of_named? named
  · exact fits_of_integer? integer

/-- What is read with so much fuel: values, items of arrays, and pairs of tables in braces. -/
structure Reads (fuel : Nat) : Prop where
  value : ∀ {depth cs item rest}, value? fuel depth cs = some (item, rest) → item.Fits
  items : ∀ {depth cs items rest}, items? fuel depth cs = some (items, rest) →
    ∀ item ∈ items, item.Fits
  pairs : ∀ {depth cs pairs rest}, pairs? fuel depth cs = some (pairs, rest) →
    ∀ pair ∈ pairs, pair.2.2.Fits

namespace Reads

variable {fuel : Nat}

theorem value_succ (reads : Reads fuel) {depth : Nat} {cs rest : List Char} {item : Item}
    (read : value? (fuel + 1) depth cs = some (item, rest)) : item.Fits := by
  have text : ∀ {cs : List Char}, ((text? cs).map fun read => (Item.string read.1, read.2)) =
      some (item, rest) → item.Fits := by
    intro cs read
    obtain ⟨_, _, same⟩ := Option.map_eq_some_iff.mp read
    cases same
    exact .string _
  rw [value?.eq_def] at read
  dsimp only at read
  split at read
  · exact text read
  · exact text read
  · split at read
    · cases read
    · obtain ⟨_, listed, same⟩ := Option.map_eq_some_iff.mp read
      cases same
      exact .array (reads.items listed)
  · split at read
    · cases read
    · split at read
      · obtain ⟨_, ⟨⟩, read⟩ := Option.bind_eq_some_iff.mp read
        obtain ⟨_, made, same⟩ := Option.bind_eq_some_iff.mp read
        cases same
        exact .table ((Table.fits_empty .inline).ofPairs (List.forall_mem_nil _) made)
      · obtain ⟨_, listed, read⟩ := Option.bind_eq_some_iff.mp read
        obtain ⟨_, made, same⟩ := Option.bind_eq_some_iff.mp read
        cases same
        exact .table ((Table.fits_empty .inline).ofPairs (reads.pairs listed) made)
  · cases read
    exact .boolean true
  · cases read
    exact .boolean false
  · exact fits_of_number? read

theorem items_succ (reads : Reads fuel) {depth : Nat} {cs rest : List Char} {items : List Item}
    (read : items? (fuel + 1) depth cs = some (items, rest)) : ∀ item ∈ items, item.Fits := by
  rw [items?.eq_def] at read
  dsimp only at read
  split at read
  · cases read
    exact List.forall_mem_nil _
  · obtain ⟨⟨item, behind⟩, first, read⟩ := Option.bind_eq_some_iff.mp read
    dsimp only at read
    split at read
    · obtain ⟨_, later, same⟩ := Option.bind_eq_some_iff.mp read
      cases same
      exact List.forall_mem_cons.mpr ⟨reads.value first, reads.items later⟩
    · cases read
      exact List.forall_mem_singleton.mpr (reads.value first)
    · cases read

theorem pairs_succ (reads : Reads fuel) {depth : Nat} {cs rest : List Char} {pairs : List Pair}
    (read : pairs? (fuel + 1) depth cs = some (pairs, rest)) :
    ∀ pair ∈ pairs, pair.2.2.Fits := by
  rw [pairs?.eq_def] at read
  obtain ⟨⟨path, key, behind⟩, _, read⟩ := Option.bind_eq_some_iff.mp read
  dsimp only at read
  split at read
  · obtain ⟨⟨item, behind⟩, first, read⟩ := Option.bind_eq_some_iff.mp read
    dsimp only at read
    split at read
    · obtain ⟨_, later, same⟩ := Option.bind_eq_some_iff.mp read
      cases same
      exact List.forall_mem_cons.mpr ⟨reads.value first, reads.pairs later⟩
    · cases read
      exact List.forall_mem_singleton.mpr (reads.value first)
    · cases read
  · cases read

end Reads

/-- Whatever fuel there is, all integers that are read fit. -/
theorem reads (fuel : Nat) : Reads fuel := by
  induction fuel with
  | zero => exact ⟨nofun, nofun, nofun⟩
  | succ fuel ih => exact ⟨ih.value_succ, ih.items_succ, ih.pairs_succ⟩

/-! ## Documents -/

def Statement.Fits : Statement → Prop
  | .pair (_, _, item) => item.Fits
  | _ => True

theorem fits_of_header? {cs rest : List Char} {statement : Statement}
    (read : header? cs = some (statement, rest)) : statement.Fits := by
  unfold header? at read
  split at read
  · obtain ⟨_, _, read⟩ := Option.bind_eq_some_iff.mp read
    dsimp only at read
    split at read
    · obtain ⟨_, _, same⟩ := Option.bind_eq_some_iff.mp read
      cases same
      trivial
    · cases read
  · obtain ⟨_, _, read⟩ := Option.bind_eq_some_iff.mp read
    dsimp only at read
    split at read
    · obtain ⟨_, _, same⟩ := Option.bind_eq_some_iff.mp read
      cases same
      trivial
    · cases read

theorem fits_of_statement? {cs rest : List Char} {statement : Statement}
    (read : statement? cs = some (statement, rest)) : statement.Fits := by
  unfold statement? at read
  split at read
  · exact fits_of_header? read
  · split at read
    · cases read
      trivial
    · obtain ⟨_, _, read⟩ := Option.bind_eq_some_iff.mp read
      dsimp only at read
      split at read
      · obtain ⟨_, value, read⟩ := Option.bind_eq_some_iff.mp read
        obtain ⟨_, _, same⟩ := Option.bind_eq_some_iff.mp read
        cases same
        exact (reads _).value value
      · cases read

namespace Draft

structure Fits (draft : Draft) : Prop where
  root : draft.root.Fits
  current : draft.current.Fits

variable {draft after : Draft} {path : List String} {key : String}

theorem fits_empty : empty.Fits :=
  ⟨Table.fits_empty _, Table.fits_empty _⟩

theorem Fits.close (fits : draft.Fits) {table : Table} (closed : draft.close = some table) :
    table.Fits := by
  unfold Draft.close at closed
  split at closed
  · cases closed
    exact fits.current
  · refine fits.root.alter (fun t after good put => ?_) closed
    split at put
    · cases put
      have first : (Item.tables ([] ++ [draft.current.entries])).Fits := .concat nofun fits.current
      exact good.put first _
    · rename_i elements found
      cases put
      refine good.put (.concat (fun entries mem => ?_) fits.current) _
      exact (good.get? found).of_tables mem .header
    · cases put
  · refine fits.root.alter (fun t after good put => ?_) closed
    cases put
    exact good.put (.table fits.current) _

theorem fits_of_under {root parent : Table} (fits : root.Fits)
    (found : under path root = some parent) : parent.Fits := by
  induction path generalizing root with
  | nil =>
      cases found
      exact fits
  | cons key rest ih =>
      rw [under] at found
      split at found
      · cases found
        exact Table.fits_empty _
      · rename_i kind entries there
        split at found
        · cases found
        · exact ih ((fits.get? there).of_table _) found
      · rename_i elements there
        split at found
        · cases found
        · rename_i last ended
          exact ih ((fits.get? there).of_tables (List.mem_of_getLast? ended) _) found
      · cases found

theorem Fits.openTable (fits : draft.Fits) (opened : draft.openTable path key = some after) :
    after.Fits := by
  obtain ⟨root, closed, opened⟩ := Option.bind_eq_some_iff.mp opened
  obtain ⟨parent, found, opened⟩ := Option.bind_eq_some_iff.mp opened
  have whole := fits.close closed
  split at opened
  · cases opened
    exact ⟨whole, Table.fits_empty _⟩
  · rename_i entries there
    obtain ⟨rest, altered, same⟩ := Option.bind_eq_some_iff.mp opened
    cases same
    refine ⟨whole.alter (fun t after good erased => ?_) altered,
      ((fits_of_under whole found).get? there).of_table _⟩
    cases erased
    exact good.erase key
  · cases opened

theorem Fits.openElement (fits : draft.Fits) (opened : draft.openElement path key = some after) :
    after.Fits := by
  obtain ⟨root, closed, opened⟩ := Option.bind_eq_some_iff.mp opened
  obtain ⟨parent, found, opened⟩ := Option.bind_eq_some_iff.mp opened
  have whole := fits.close closed
  split at opened
  · cases opened
    exact ⟨whole, Table.fits_empty _⟩
  · cases opened
    exact ⟨whole, Table.fits_empty _⟩
  · cases opened

theorem Fits.enter (fits : draft.Fits) {statement : Statement} (good : statement.Fits)
    (entered : draft.enter statement = some after) : after.Fits := by
  unfold Draft.enter at entered
  split at entered
  · cases entered
    exact fits
  · obtain ⟨current, inserted, same⟩ := Option.map_eq_some_iff.mp entered
    cases same
    exact ⟨fits.root, fits.current.insert good inserted⟩
  · exact fits.openElement entered
  · exact fits.openTable entered

end Draft

theorem fits_of_readLines {fuel : Nat} {draft : Draft} (fits : draft.Fits) {cs : List Char}
    {table : Table} (read : readLines fuel draft cs = .ok table) : table.Fits := by
  induction fuel generalizing draft cs with
  | zero => cases read
  | succ fuel ih =>
      rw [readLines] at read
      split at read
      · split at read
        · rename_i closed
          cases read
          exact fits.close closed
        · cases read
      · split at read
        · cases read
        · rename_i there
          split at read
          · cases read
          · rename_i entered
            exact ih (fits.enter (fits_of_statement? there) entered) read

/-- All integers of a document fit. -/
theorem fits_of_read {text : String} {table : Table} (read : Toml.read text = .ok table) :
    table.Fits :=
  fits_of_readLines Draft.fits_empty read

/-! ## Decoders -/

/-- An encoded value that an item was made into whose integers all fit. -/
def Fitting (node : Wire.Node) : Prop :=
  ∃ item : Item, item.Fits ∧ node = item.toNode

namespace Item

theorem toItems_eq_map (items : List Item) :
    toItems items = items.map fun item => (itemFrame, toNode item) := by
  induction items with
  | nil => rfl
  | cons item rest ih => exact congrArg (_ :: ·) ih

theorem toEntries_eq_map (entries : Entries) :
    toEntries entries = entries.map fun entry => (Wire.Node.keyOf entry.1, toNode entry.2) := by
  induction entries with
  | nil => rfl
  | cons entry rest ih => exact congrArg (_ :: ·) ih

/-- Each of several tables is made into what the table alone is made into. -/
theorem toElements_eq_map (elements : List Entries) :
    toElements elements =
      elements.map fun entries => (itemFrame, toNode (.table .header entries)) := by
  induction elements with
  | nil => rfl
  | cons entries rest ih => exact congrArg (_ :: ·) ih

theorem Fits.each {item : Item} (fits : item.Fits) : item.toNode.Each Fitting := by
  cases fits with
  | time text =>
      exact List.forall_mem_singleton.mpr ⟨.string text, .string text, rfl⟩
  | array each =>
      rw [toNode, Wire.Node.Each, toItems_eq_map, List.forall_mem_map]
      exact fun item mem => ⟨item, each item mem, rfl⟩
  | table each =>
      rw [toNode, Wire.Node.Each, toEntries_eq_map, List.forall_mem_map]
      exact fun entry mem => ⟨entry.2, each entry mem, rfl⟩
  | tables each =>
      rw [toNode, Wire.Node.Each, toElements_eq_map, List.forall_mem_map]
      exact fun entries mem => ⟨.table .header entries, .table (each entries mem), rfl⟩
  | _ => trivial

end Item

theorem Fitting.each {node : Wire.Node} (fitting : Fitting node) : node.Each Fitting := by
  obtain ⟨item, fits, rfl⟩ := fitting
  exact fits.each

/-- What is decoded as a natural number is below 2⁶³, whatever the bound of its type. -/
theorem Fitting.lt_of_natBelow {node : Wire.Node} (fitting : Fitting node) {bound n : Nat}
    {expected : String} (decoded : Wire.Decode.natBelow bound expected node = .ok n) :
    n < Nat.pow 2 63 := by
  obtain ⟨item, fits, rfl⟩ := fitting
  cases fits with
  | @integer value above below =>
      cases value with
      | ofNat m =>
          simp only [Item.toNode, Wire.Decode.natBelow] at decoded
          split at decoded
          · cases decoded
            exact Int.ofNat_lt.mp below
          · cases decoded
      | negSucc m => cases decoded
  | _ => cases decoded

/-- What is accepted of a text was decoded of a document whose integers all fit. -/
theorem fitting_of_accept {α : Type} {decoder : Wire.Decoder α} {text : String} {value : α}
    (accepted : accept decoder text = .ok value) :
    ∃ node, Fitting node ∧ decoder node = .ok value := by
  obtain ⟨table, read, decoded⟩ := bind_eq_ok_iff.mp accepted
  exact ⟨_, ⟨_, .table (fits_of_read (mapError_eq_ok_iff.mp read)), rfl⟩,
    mapError_eq_ok_iff.mp decoded⟩

end ActionGraph.Toml
