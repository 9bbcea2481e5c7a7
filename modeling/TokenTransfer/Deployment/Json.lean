import TokenTransfer.Deployment.Basic
import TokenTransfer.Json.Format
import TokenTransfer.Peer
import TokenTransfer.Transaction

/-!
# The JSON form of deployments

Chains are numbers, addresses and payloads are hexadecimal text, tags are arrays of four numbers, and
records have their fields in the order of their declarations.

## Main definitions

* the `JsonFormat` instances
* `ByteText` - payloads as text
* `readConfiguration` - the value of a text, with a fault if there is none
-/

namespace TokenTransfer

/-! ### Parts -/

instance : JsonFormat ChainId where
  read? v := (JsonFormat.read? v).map ChainId.mk
  write chain := JsonFormat.write chain.id

instance : JsonFormat Address where
  read? v := v.text?.bind fun text => (Address.parse text).toOption
  write address := .ofText (Address.text address)

instance : JsonFormat Tag where
  read? v := (JsonFormat.read? v).bind (FixedBytes.ofBytes? 4)
  write tag := JsonFormat.write tag.bytes

/-- A payload as text: hexadecimal digits, two a byte, after an optional `0x`. -/
structure ByteText where
  bytes : Bytes

instance : JsonFormat ByteText where
  read? v := v.text?.bind fun text =>
    (Hex.decode (Address.withoutMark (Hex.utf8 text))).toOption.map ByteText.mk
  write payload := .ofText ("0x" ++ Hex.encode payload.bytes)

instance : JsonFormat Network where
  read? v := v.variant?.bind fun name =>
    [Network.mainnet, .testnet, .devnet].find? fun network => network.text = name
  write network := .ofText network.text

instance : JsonFormat Mode where
  read? v := v.variant?.bind fun name =>
    [Mode.locking, .burning].find? fun mode => mode.text = name
  write mode := .ofText mode.text

/-! ### Records -/

instance : JsonFormat TransceiverContracts where
  read? v := do
    let r ← v.record? ["wormhole"]
    return { wormhole := ← r.required "wormhole" }
  write c := .ofFields [field "wormhole" c.wormhole]

instance : JsonFormat TokenContracts where
  read? v := do
    let r ← v.record? ["manager", "token", "transceiver", "quoter"]
    return {
      manager := ← r.required "manager"
      token := ← r.required "token"
      transceiver := ← r.required "transceiver"
      quoter := ← r.defaulted "quoter" none }
  write c := .ofFields [field "manager" c.manager, field "token" c.token,
    field "transceiver" c.transceiver, field "quoter" c.quoter]

instance : JsonFormat Contracts where
  read? v := do
    let r ← v.record? ["ntt"]
    return { ntt := ← r.defaulted "ntt" none }
  write c := .ofFields [field "ntt" c.ntt]

instance : JsonFormat RelayerConfig where
  read? v := do
    let r ← v.record? ["base_fee", "specialized"]
    return {
      baseFee := ← r.required "base_fee"
      specialized := ← r.defaulted "specialized" false }
  write c := .ofFields [field "base_fee" c.baseFee, field "specialized" c.specialized]

instance : JsonFormat Deployment where
  read? v := do
    let r ← v.record? ["network", "chain", "mode", "token_decimals", "outbound_limit",
      "rate_limit_duration", "transceiver_prefixes", "relayer", "contracts"]
    return {
      network := ← r.required "network"
      chain := ← r.required "chain"
      mode := ← r.required "mode"
      tokenDecimals := ← r.required "token_decimals"
      outboundLimit := ← r.required "outbound_limit"
      duration := ← r.defaulted "rate_limit_duration" RateLimit.defaultDuration
      tags := ← r.defaulted "transceiver_prefixes" Deployment.defaultTags
      relayer := ← r.defaulted "relayer" none
      contracts := ← r.defaulted "contracts" ⟨none⟩ }
  write d := .ofFields [field "network" d.network, field "chain" d.chain, field "mode" d.mode,
    field "token_decimals" d.tokenDecimals, field "outbound_limit" d.outboundLimit,
    field "rate_limit_duration" d.duration, field "transceiver_prefixes" d.tags,
    field "relayer" d.relayer, field "contracts" d.contracts]

instance : JsonFormat ChainAddress where
  read? v := do
    let r ← v.record? ["chain", "address"]
    return { chain := ← r.required "chain", address := ← r.required "address" }
  write a := .ofFields [field "chain" a.chain, field "address" a.address]

instance : JsonFormat TransferOptions where
  read? v := do
    let r ← v.record? ["queue", "automatic", "gas_dropoff"]
    return {
      queue := ← r.defaulted "queue" TransferOptions.none.queue
      automatic := ← r.defaulted "automatic" TransferOptions.none.automatic
      gasDropoff := ← r.defaulted "gas_dropoff" TransferOptions.none.gasDropoff }
  write o := .ofFields [field "queue" o.queue, field "automatic" o.automatic,
    field "gas_dropoff" o.gasDropoff]

instance : JsonFormat Attestation where
  read? v := do
    let r ← v.record? ["emitter_chain", "emitter_address", "sequence", "payload"]
    let payload : ByteText ← r.required "payload"
    return {
      emitterChain := ← r.required "emitter_chain"
      emitter := ← r.required "emitter_address"
      sequence := ← r.required "sequence"
      payload := payload.bytes }
  write a := .ofFields [field "emitter_chain" a.emitterChain, field "emitter_address" a.emitter,
    field "sequence" a.sequence, field "payload" (ByteText.mk a.payload)]

instance : JsonFormat UnsignedTransaction where
  read? v := do
    let r ← v.record? ["chain", "description", "parallelizable", "payload"]
    let payload : ByteText ← r.required "payload"
    return {
      chain := ← r.required "chain"
      description := ← r.required "description"
      parallelizable := ← r.required "parallelizable"
      payload := payload.bytes }
  write t := .ofFields [field "chain" t.chain, field "description" t.description,
    field "parallelizable" t.parallelizable, field "payload" (ByteText.mk t.payload)]

instance : JsonFormat PeerConfig where
  read? v := do
    let r ← v.record? ["chain", "manager_address", "token_decimals", "inbound_limit"]
    return {
      chain := ← r.required "chain"
      manager := ← r.required "manager_address"
      tokenDecimals := ← r.required "token_decimals"
      inboundLimit := ← r.required "inbound_limit" }
  write p := .ofFields [field "chain" p.chain, field "manager_address" p.manager,
    field "token_decimals" p.tokenDecimals, field "inbound_limit" p.inboundLimit]

/-! ### Tables -/

/-- The chain that a key names: its decimal number without leading zeros, written without escapes. -/
def chainOfKey? (key : Quoted) : Option ChainId := do
  let digits ← key.plain?
  if digits.isEmpty ∨ ¬ digits.all Char.isDigit then none
  else if digits.head? = some '0' ∧ digits.length ≠ 1 then none
  else if Numeral.value digits < UInt16.size then some ⟨UInt16.ofNat (Numeral.value digits)⟩
  else none

/-- An object with one member per chain.  Of two members for one chain the later counts. -/
instance : JsonFormat Deployments where
  read?
    | .object members => do
      let entries ← members.mapM fun (key, v) => do
        return (← chainOfKey? key, ← JsonFormat.read? v)
      return ⟨entries.foldl (fun table (chain, d) => table.insert chain d) .empty⟩
    | _ => none
  write ds := .object (ds.table.entries.map fun (chain, d) =>
    (Quoted.ofString chain.text, JsonFormat.write d))

/-! ### From text -/

/-- The value of a configuration text. -/
def readConfiguration (α : Type) [JsonFormat α] (text : String) : Except Fault α :=
  match readJson? α text with
  | some a => .ok a
  | none => .error .badConfiguration

end TokenTransfer
