import ProofScript.Formula.Grammar
import ProofScript.Formula.Semantics
import ProofScript.Formula.Substitution
import ProofScript.Main
import ProofScript.Proofs.CommandLine
import ProofScript.Proofs.Completeness
import ProofScript.Proofs.Conditions
import ProofScript.Proofs.Conservation
import ProofScript.Proofs.FormulaText
import ProofScript.Proofs.JoinedScripts
import ProofScript.Proofs.LongestMatch
import ProofScript.Proofs.OpenGoals
import ProofScript.Proofs.ParseErrors
import ProofScript.Proofs.ScriptLines
import ProofScript.Proofs.ScriptText
import ProofScript.Proofs.Soundness
import ProofScript.Proofs.StateText
import ProofScript.Proofs.Substitution
import ProofScript.Proofs.TokenText
import ProofScript.Script.Printer
import ProofScript.Unicode.LineBreak
