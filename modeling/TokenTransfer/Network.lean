/-!
# Networks and modes

## Main definitions

* `Network` - the networks that a deployment may belong to
* `Mode` - what a manager does with the tokens it takes and pays
-/

namespace TokenTransfer

/-- The networks that a deployment may belong to. -/
inductive Network where
  | mainnet
  | testnet
  | devnet
deriving DecidableEq

/-- The name of a network. -/
def Network.text : Network → String
  | mainnet => "Mainnet"
  | testnet => "Testnet"
  | devnet => "Devnet"

/-- A manager either locks tokens in custody and unlocks them, or burns and mints them. -/
inductive Mode where
  | locking
  | burning
deriving DecidableEq

/-- The name of a mode. -/
def Mode.text : Mode → String
  | locking => "locking"
  | burning => "burning"

end TokenTransfer
