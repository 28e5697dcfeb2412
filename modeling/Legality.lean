import Legality.Character.Ability
import Legality.Character.Snapshot
import Legality.Character.Validity
import Legality.Config.Layers
import Legality.Config.Settings
import Legality.Data.Json
import Legality.Data.SortedMap
import Legality.Data.Value
import Legality.Enforcement.Gate
import Legality.Enforcement.Policy
import Legality.Enforcement.Severity
import Legality.Governance.Ledger
import Legality.Governance.Request
import Legality.Governance.State
import Legality.Integrity.Store
import Legality.Integrity.Tracker
import Legality.Integrity.Violation
import Legality.Journal
import Legality.Prerequisite.Evaluation
import Legality.Prerequisite.Expression
import Legality.Prerequisite.RulesText
import Legality.Progression.Compiler
import Legality.Progression.Delta
import Legality.Progression.Intent
import Legality.Proofs.Character.Faults
import Legality.Proofs.Character.Validity
import Legality.Proofs.Config.Layers
import Legality.Proofs.Data.Reading
import Legality.Proofs.Data.SortedMap
import Legality.Proofs.Enforcement.Agreement
import Legality.Proofs.Enforcement.Classification
import Legality.Proofs.Enforcement.Recall
import Legality.Proofs.Enforcement.Severity
import Legality.Proofs.Governance.Audit
import Legality.Proofs.Governance.FailingStore
import Legality.Proofs.Governance.Interleaving
import Legality.Proofs.Governance.Ledger
import Legality.Proofs.Governance.LogOrder
import Legality.Proofs.Integrity.Acquisition
import Legality.Proofs.Integrity.Campaign
import Legality.Proofs.Integrity.Difference
import Legality.Proofs.Integrity.Handles
import Legality.Proofs.Integrity.Lawfulness
import Legality.Proofs.Integrity.Report
import Legality.Proofs.Integrity.Restoration
import Legality.Proofs.Integrity.Slots
import Legality.Proofs.Integrity.Tracking
import Legality.Proofs.Prerequisite.AbilityNames
import Legality.Proofs.Prerequisite.Canonical
import Legality.Proofs.Prerequisite.Clauses
import Legality.Proofs.Prerequisite.Exclusion
import Legality.Proofs.Prerequisite.Flattening
import Legality.Proofs.Prerequisite.Growth
import Legality.Proofs.Prerequisite.LetterCase
import Legality.Proofs.Prerequisite.Meaning
import Legality.Proofs.Prerequisite.Outcome
import Legality.Proofs.Prerequisite.Permanence
import Legality.Proofs.Prerequisite.Requirement
import Legality.Proofs.Prerequisite.Respelling
import Legality.Proofs.Prerequisite.RulesText
import Legality.Proofs.Prerequisite.Tree
import Legality.Proofs.Prerequisite.Truth
import Legality.Proofs.Prerequisite.Wording
import Legality.Proofs.Progression.Compilation
import Legality.Proofs.Progression.Effect
import Legality.Proofs.Progression.Fields
import Legality.Proofs.Progression.Fulfilment
import Legality.Proofs.Progression.Independence
import Legality.Proofs.Progression.Levels
import Legality.Proofs.Progression.Plan
import Legality.Proofs.Progression.Preview
import Legality.Proofs.Progression.SkillBudget
import Legality.Proofs.Rules.Catalogue
import Legality.Proofs.Rules.Loading
import Legality.Proofs.Text.Basic
import Legality.Proofs.Text.Key
import Legality.Proofs.Text.LetterCase
import Legality.Proofs.Text.Lowercase
import Legality.Proofs.Text.NormalForm
import Legality.Proofs.Text.Words
import Legality.Proofs.Time.Instant
import Legality.Proofs.Time.Timestamp
import Legality.Proofs.Wire.Character
import Legality.Proofs.Wire.Integrity
import Legality.Proofs.Wire.Intent
import Legality.Rules.Layout
import Legality.Rules.RuleTable
import Legality.Text.Alphanumeric
import Legality.Text.Basic
import Legality.Text.Key
import Legality.Text.Quoted
import Legality.Time.Timestamp
import Legality.Toml.Reader
import Legality.Toml.Scalar
import Legality.Toml.Table
import Legality.Wire.Character
import Legality.Wire.CodedError
import Legality.Wire.Config
import Legality.Wire.Governance
import Legality.Wire.Integrity
import Legality.Wire.Progression
import Legality.Wire.Rules

