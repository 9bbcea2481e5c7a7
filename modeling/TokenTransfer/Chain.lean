import TokenTransfer.Table

/-!
# Chains

A chain is known by a 16-bit number.

## Main definitions

* `ChainId` - the number of a chain
* `ChainId.named` - the chains that have a name here
-/

namespace TokenTransfer

/-- The number by which a chain is known. -/
structure ChainId where
  id : UInt16
deriving DecidableEq

namespace ChainId

instance : Ranked ChainId where
  rank chain := chain.id.toNat
  rank_inj {a b} h := by
    cases a
    cases b
    exact congrArg ChainId.mk (UInt16.toNat.inj h)

/-- The number of a chain in decimal. -/
def text (chain : ChainId) : String := toString chain.id.toNat

/-- A chain as it is listed for inspection. -/
def inspect (chain : ChainId) : String := "ChainId \x7b id: " ++ chain.text ++ " \x7d"

/-! ### Named chains -/

def solana : ChainId := ⟨1⟩
def ethereum : ChainId := ⟨2⟩
def fantom : ChainId := ⟨10⟩
def celo : ChainId := ⟨14⟩
def sui : ChainId := ⟨21⟩
def aptos : ChainId := ⟨22⟩
def sepolia : ChainId := ⟨10002⟩
def arbitrumSepolia : ChainId := ⟨10003⟩
def baseSepolia : ChainId := ⟨10004⟩
def optimismSepolia : ChainId := ⟨10005⟩

/-- The chains that have a name. -/
def named : List ChainId :=
  [solana, ethereum, fantom, celo, sui, aptos, sepolia, arbitrumSepolia, baseSepolia,
    optimismSepolia]

end ChainId

end TokenTransfer
