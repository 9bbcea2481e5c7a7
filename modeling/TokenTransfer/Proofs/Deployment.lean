import Mathlib.Data.List.Induction
import TokenTransfer.Deployment.Json
import TokenTransfer.Proofs.Table

/-!
# Looking up a deployment

A table of deployments says for which chain each of them is looked up, and every deployment names
its chain again.  One that is added is filed under the chain that it names.  One that is read from a
text is filed under the key that stands before it, and no one compares the two.

What a table holds comes of all filings, in their order, of which the last one for a chain counts
(`find?_ofEntries`).  So the deployment that is found for a chain is one of that chain, unless it was
the text that filed it there (`lookup_of_source`).

## Main definitions

* `Deployments.lastFiled` - what was filed last for a chain
* `Deployments.ofEntries` - the table of a list of filings
* `Deployments.Source` - what a table is at first
* `Deployments.addAll` - a table after deployments were added

## Main statements

* `Deployments.Source.read_eq_ok_iff` - a table at first is that of the source's filings
* `Deployments.addAll_ofEntries` - adding deployments goes on with the filings
* `Deployments.lookup_of_source` - what is found, and when it is another chain's deployment
-/

namespace TokenTransfer

namespace Deployments

/-! ### Filing -/

/-- **What was filed last** for a chain. -/
def lastFiled (entries : List (ChainId × Deployment)) (chain : ChainId) : Option Deployment :=
  (entries.reverse.find? fun e => e.1 = chain).map (·.2)

/-- The table of a list of filings. -/
def ofEntries (entries : List (ChainId × Deployment)) : Deployments :=
  ⟨entries.foldl (fun table e => table.insert e.1 e.2) .empty⟩

/-- What is filed later counts before what is filed earlier. -/
theorem lastFiled_append (earlier later : List (ChainId × Deployment)) (chain : ChainId) :
    lastFiled (earlier ++ later) chain = (lastFiled later chain).or (lastFiled earlier chain) := by
  unfold lastFiled
  rw [List.reverse_append, List.find?_append, Option.map_or]

@[simp] theorem lastFiled_singleton (key : ChainId) (d : Deployment) (chain : ChainId) :
    lastFiled [(key, d)] chain = if key = chain then some d else none := by
  by_cases same : key = chain
  · simp [lastFiled, same]
  · simp [lastFiled, same]

/-- What was filed last was filed. -/
theorem mem_of_lastFiled {entries : List (ChainId × Deployment)} {chain : ChainId} {d : Deployment}
    (last : lastFiled entries chain = some d) : (chain, d) ∈ entries := by
  obtain ⟨⟨key, d'⟩, found, rfl⟩ := Option.map_eq_some_iff.mp last
  have same : key = chain := by simpa using List.find?_some found
  have mem := List.mem_of_find?_eq_some found
  rwa [List.mem_reverse, same] at mem

/-- Nothing is filed under a chain that no key names. -/
theorem lastFiled_eq_none_iff {entries : List (ChainId × Deployment)} {chain : ChainId} :
    lastFiled entries chain = none ↔ ∀ e ∈ entries, e.1 ≠ chain := by
  simp [lastFiled]

/-- **One more filing** is one more change of the table. -/
theorem ofEntries_concat (entries : List (ChainId × Deployment)) (e : ChainId × Deployment) :
    ofEntries (entries ++ [e]) = ⟨(ofEntries entries).table.insert e.1 e.2⟩ := by
  rw [ofEntries, List.foldl_append]
  rfl

/-- **The table holds what was filed last.** -/
theorem find?_ofEntries (entries : List (ChainId × Deployment)) (chain : ChainId) :
    (ofEntries entries).table.find? chain = lastFiled entries chain := by
  -- A filing replaces what was filed before it, so the induction takes off the last one.
  induction entries using List.reverseRecOn with
  | nil => rfl
  | append_singleton entries e ih =>
      obtain ⟨key, d⟩ := e
      rw [ofEntries_concat, lastFiled_append, lastFiled_singleton]
      by_cases same : key = chain
      · subst same
        rw [Table.find?_insert_self, if_pos rfl, Option.some_or]
      · rw [Table.find?_insert_of_ne _ _ (Ne.symm same), if_neg same, Option.none_or, ih]

/-! ### Adding deployments -/

/-- A deployment, filed under the chain that it names. -/
def ownEntry (d : Deployment) : ChainId × Deployment := (d.chain, d)

/-- **A table after deployments were added**, one after another. -/
def addAll (ds : Deployments) (added : List Deployment) : Deployments :=
  added.foldl (fun ds d => (ds.insert d).2) ds

/-- **Adding deployments goes on with the filings**, each under the chain that it names. -/
theorem addAll_ofEntries (entries : List (ChainId × Deployment)) (added : List Deployment) :
    (ofEntries entries).addAll added = ofEntries (entries ++ added.map ownEntry) := by
  induction added generalizing entries with
  | nil => rw [List.map_nil, List.append_nil, addAll, List.foldl_nil]
  | cons d added ih =>
      have first : ((ofEntries entries).insert d).2 = ofEntries (entries ++ [ownEntry d]) :=
        (ofEntries_concat entries (ownEntry d)).symm
      rw [addAll, List.foldl_cons, first, ← addAll, ih, List.append_assoc, List.map_cons,
        List.singleton_append]

/-- What was filed last among added deployments is one of its chain. -/
theorem chain_eq_of_added {added : List Deployment} {chain : ChainId} {d : Deployment}
    (last : lastFiled (added.map ownEntry) chain = some d) : d.chain = chain := by
  obtain ⟨d', -, same⟩ := List.mem_map.mp (mem_of_lastFiled last)
  obtain ⟨chains, rfl⟩ := Prod.mk.inj same
  exact chains

/-- What is added is filed under its own chain. -/
theorem lastFiled_added_eq_none_iff {added : List Deployment} {chain : ChainId} :
    lastFiled (added.map ownEntry) chain = none ↔ ∀ d ∈ added, d.chain ≠ chain := by
  rw [lastFiled_eq_none_iff, List.forall_mem_map]
  rfl

/-- A deployment of another chain is what was filed last exactly when it was filed before, and none
was added for the chain since. -/
theorem lastFiled_added_iff_of_ne {entries : List (ChainId × Deployment)} {added : List Deployment}
    {chain : ChainId} {d : Deployment} (differs : d.chain ≠ chain) :
    lastFiled (entries ++ added.map ownEntry) chain = some d ↔
      (∀ d' ∈ added, d'.chain ≠ chain) ∧ lastFiled entries chain = some d := by
  rw [lastFiled_append, ← lastFiled_added_eq_none_iff]
  cases last : lastFiled (added.map ownEntry) chain with
  | none => simp
  | some d' =>
      have own := chain_eq_of_added last
      constructor
      · rintro ⟨⟩
        exact absurd own differs
      · rintro ⟨⟨⟩, -⟩

/-! ### Sources -/

/-- What a table is at first: empty, or read from a text. -/
inductive Source where
  | empty
  | json (text : String)

namespace Source

/-- The filings of a tree: the members of an object, under the chains that their keys name. -/
def members? : JsonValue → Option (List (ChainId × Deployment))
  | .object members => members.mapM fun (key, v) => do
    return (← chainOfKey? key, ← JsonFormat.read? v)
  | _ => none

/-- The filings of a source, if it has a table. -/
def entries? : Source → Option (List (ChainId × Deployment))
  | empty => some []
  | json text => (JsonValue.parse? text).bind members?

/-- The table of a source. -/
def read : Source → Except Fault Deployments
  | empty => .ok .empty
  | json text => readConfiguration Deployments text

/-- A table is read from the members of its text, in order. -/
theorem read?_eq (v : JsonValue) :
    (JsonFormat.read? v : Option Deployments) = (members? v).map ofEntries := by
  cases v with
  | object members => exact (Option.map_eq_bind ..).symm
  | _ => rfl

theorem readJson?_eq (text : String) :
    readJson? Deployments text = (entries? (.json text)).map ofEntries := by
  rw [readJson?, entries?, Option.map_bind]
  exact congrArg _ (funext read?_eq)

/-- **A table at first is that of the source's filings.** -/
theorem read_eq_ok_iff {source : Source} {ds : Deployments} :
    source.read = .ok ds ↔ ∃ entries, source.entries? = some entries ∧ ofEntries entries = ds := by
  cases source with
  | empty =>
      constructor
      · rintro ⟨⟩
        exact ⟨[], rfl, rfl⟩
      · rintro ⟨-, ⟨⟩, rfl⟩
        rfl
  | json text =>
      rw [read, readConfiguration, readJson?_eq, ← Option.map_eq_some_iff]
      cases (entries? (.json text)).map ofEntries with
      | none => exact ⟨nofun, nofun⟩
      | some ds' => simp

end Source

/-! ### Lookups -/

/-- A lookup finds what the table holds for the chain, if it is of the network. -/
theorem lookup_eq_ok {ds : Deployments} {network : Network} {chain : ChainId} {d : Deployment} :
    ds.lookup network chain = .ok d ↔ d.network = network ∧ ds.table.find? chain = some d := by
  unfold lookup
  split
  · rename_i absent
    simp [absent]
  · rename_i d' found
    rw [found]
    by_cases same : d'.network = network
    · rw [if_pos same]
      constructor
      · rintro ⟨⟩
        exact ⟨same, rfl⟩
      · rintro ⟨-, ⟨⟩⟩
        rfl
    · rw [if_neg same]
      constructor
      · exact nofun
      · rintro ⟨network, ⟨⟩⟩
        exact absurd network same

/-- **What a lookup finds**, after a table was read or begun empty and deployments were added to it.
It is a deployment of the network, and the one that was filed last for the chain.  It is one of
another chain exactly when nothing was added for the chain that was asked for and the text files it
last under that one.  A text that has each deployment under its own chain leads to no such lookup. -/
theorem lookup_of_source {source : Source} {ds : Deployments} (read : source.read = .ok ds)
    (added : List Deployment) (network : Network) (chain : ChainId) :
    ∃ entries, source.entries? = some entries ∧
      (∀ d, (ds.addAll added).lookup network chain = .ok d ↔ d.network = network ∧
        lastFiled (entries ++ added.map ownEntry) chain = some d) ∧
      (∀ d, d.chain ≠ chain → ((ds.addAll added).lookup network chain = .ok d ↔
        d.network = network ∧ (∀ d' ∈ added, d'.chain ≠ chain) ∧
          lastFiled entries chain = some d)) ∧
      ((∀ e ∈ entries, e.2.chain = e.1) →
        ∀ d, (ds.addAll added).lookup network chain = .ok d → d.chain = chain) := by
  obtain ⟨entries, listed, rfl⟩ := Source.read_eq_ok_iff.mp read
  have found : ∀ d, ((ofEntries entries).addAll added).lookup network chain = .ok d ↔
      d.network = network ∧ lastFiled (entries ++ added.map ownEntry) chain = some d := by
    intro d
    rw [lookup_eq_ok, addAll_ofEntries, find?_ofEntries]
  refine ⟨entries, listed, found, ?_, ?_⟩
  · intro d differs
    rw [found, lastFiled_added_iff_of_ne differs]
  · intro filed d ok
    by_contra differs
    obtain ⟨-, last⟩ := (found d).mp ok
    obtain ⟨-, last⟩ := (lastFiled_added_iff_of_ne differs).mp last
    exact differs (filed _ (mem_of_lastFiled last))

/-! ### A text that files a deployment under another chain -/

/-- A text with the deployment of chain 2 under the key of chain 1. -/
def misfiledText : String :=
  "\x7b\"1\":\x7b\"network\":\"Testnet\",\"chain\":2,\"mode\":\"locking\"," ++
    "\"token_decimals\":8,\"outbound_limit\":0\x7d\x7d"

/-- The deployment in that text. -/
def misfiled : Deployment where
  network := .testnet
  chain := ⟨2⟩
  mode := .locking
  tokenDecimals := 8
  outboundLimit := 0
  duration := RateLimit.defaultDuration
  tags := Deployment.defaultTags
  relayer := none
  contracts := ⟨none⟩

/-- The text has the deployment of chain 2 under chain 1. -/
theorem entries?_misfiledText :
    (Source.json misfiledText).entries? = some [(⟨1⟩, misfiled)] := by decide +kernel

/-- **A lookup finds another chain's deployment**: the text is read, and chain 1 has a deployment
that names chain 2. -/
theorem lookup_misfiled : ∃ ds, readConfiguration Deployments misfiledText = .ok ds ∧
    ds.lookup .testnet ⟨1⟩ = .ok misfiled ∧ misfiled.chain ≠ ⟨1⟩ := by
  have read : (Source.json misfiledText).read = .ok (ofEntries [(⟨1⟩, misfiled)]) :=
    Source.read_eq_ok_iff.mpr ⟨_, entries?_misfiledText, rfl⟩
  exact ⟨_, read, rfl, by decide⟩

/-- Chain 1 has what the text files under it, until a deployment is added for it. -/
theorem lookup_of_source_of_misfiled :
    ∃ ds, (Source.json misfiledText).read = .ok ds ∧
      ds.lookup .testnet ⟨1⟩ = .ok misfiled ∧ misfiled.chain ≠ ⟨1⟩ ∧
      (ds.addAll [{ misfiled with chain := ⟨1⟩ }]).lookup .testnet ⟨1⟩ =
        .ok { misfiled with chain := ⟨1⟩ } := by
  have read : (Source.json misfiledText).read = .ok (ofEntries [(⟨1⟩, misfiled)]) :=
    Source.read_eq_ok_iff.mpr ⟨_, entries?_misfiledText, rfl⟩
  obtain ⟨entries, listed, -, other, -⟩ := lookup_of_source read [] .testnet ⟨1⟩
  obtain ⟨entries', listed', found, -, -⟩ :=
    lookup_of_source read [{ misfiled with chain := ⟨1⟩ }] .testnet ⟨1⟩
  cases entries?_misfiledText.symm.trans listed
  cases entries?_misfiledText.symm.trans listed'
  have differs : misfiled.chain ≠ ⟨1⟩ := by decide
  exact ⟨_, read, (other _ differs).mpr ⟨rfl, nofun, rfl⟩, differs, (found _).mpr ⟨rfl, rfl⟩⟩

end Deployments

end TokenTransfer
