import ElasticPanels.Fault
import ElasticPanels.Json.ScalarKeys
import ElasticPanels.Panel.Query
import ElasticPanels.Result.Series

/-!
# Documents of a reply

A query for documents takes them from the hits of its slot.  The source of a hit is an object, or a
list of pairs that write one; it gets the identity of the hit as three further fields.
-/

namespace ElasticPanels

/-- The two parts of entry number `i` of a list that should hold pairs.  Anything with two items is
a pair: a list, a text of two characters, the keys of an object. -/
def Json.pairAt (i : Nat) (entry : Json) : Outcome (Json × Json) := do
  match ← entry.walk with
  | [key, value] => if key.isScalar then return (key, value) else throw .wrongKind
  | items => throw (.notPair i items.length)

/-- The pairs of a list of pairs, counted from `i`. -/
def Json.pairsFrom : Nat → List Json → Outcome (List (Json × Json))
  | _, [] => return []
  | i, entry :: rest => do
    let pair ← entry.pairAt i
    return pair :: (← pairsFrom (i + 1) rest)

/-- The entries of an object, or those that a list of pairs writes. -/
def Json.dictionary : Json → Outcome (List (Json × Json))
  | .obj fields => return fields.map fun field => (.str field.1, field.2)
  | value => do
    let pairs ← pairsFrom 0 (← value.walk)
    return pairs.foldl (fun acc pair => Json.putScalar acc pair.1 pair.2) []

namespace Documents

/-- A hit as a document: its source with the identity of the hit. -/
def ofHit (hit : Json) : Outcome (List (Json × Json)) := do
  let source ← (← hit.entryD "_source" (.obj [])).dictionary
  let mut document := source
  for name in ["_id", "_type", "_index"] do
    document := Json.putScalar document (.str name) (← hit.entryD name .null)
  return document

/-- The step to an entry with the given key. -/
def stepOfKey : Json → Step
  | .str s => .name s
  | .bool b => .index (if b then 1 else 0)
  | .int n => if Check.fitsWord n then .index n else .name (Json.int n).literalText
  | key => .name key.literalText

/-- Checks that the keys of a document are texts. -/
def checkDocument : List (Json × Json) → Checked (Entries Json)
  | [] => .ok []
  | (key, value) :: rest =>
    (fun k others => (k, value) :: others)
      <$> Checked.under (stepOfKey key) (Checked.under (.branch "[key]") (Check.text key))
      <*> checkDocument rest

/-- The number of hits, which may be given inside an object. -/
def totalOf (hits : Json) : Outcome Json := do
  match ← hits.entryD "total" (.int 0) with
  | .obj fields => return (Entries.get? fields "value").getD (.int 0)
  | total => return total

/-- The documents of a slot. -/
def ofSlot (q : PanelQuery) (slot : Json) : Outcome Documents := do
  let hits ← slot.entryD "hits" (.obj [])
  let total ← totalOf hits
  let found ← (← (← hits.entryD "hits" (.arr [])).walk).mapM ofHit
  Checked.outcome "DocsResult" <|
    Documents.mk q.refId <$> Checked.under (.name "total") (Check.int total)
      <*> Checked.under (.name "datapoints") (Checked.items checkDocument 0 found)

end Documents

end ElasticPanels
