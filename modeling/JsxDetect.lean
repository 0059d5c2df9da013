import JsxDetect.Files.Change
import JsxDetect.Main
import JsxDetect.Proofs.Command.ArgumentGrammar
import JsxDetect.Proofs.Command.EntryPoints
import JsxDetect.Proofs.Command.FilterSources
import JsxDetect.Proofs.Command.FullSinks
import JsxDetect.Proofs.Command.JsonLog
import JsxDetect.Proofs.Command.Notices
import JsxDetect.Proofs.Command.Report
import JsxDetect.Proofs.Command.Trace
import JsxDetect.Proofs.Detection.Comparisons
import JsxDetect.Proofs.Detection.OpenElements
import JsxDetect.Proofs.Files.Classification
import JsxDetect.Proofs.Text.Substitution
