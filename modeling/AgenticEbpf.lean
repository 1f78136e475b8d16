import AgenticEbpf.Python.Text
import AgenticEbpf.Python.Number
import AgenticEbpf.Python.Path
import AgenticEbpf.Python.Csv
import AgenticEbpf.Python.Statistics
import AgenticEbpf.Summary.Units
import AgenticEbpf.Summary.WorkerLog
import AgenticEbpf.Summary.Aggregated
import AgenticEbpf.Summary.Output
import AgenticEbpf.Evaluator.MetricsCsv
import AgenticEbpf.Evaluator.Stages
import AgenticEbpf.Evaluator.LogScan
import AgenticEbpf.Evaluator.Evaluate
import AgenticEbpf.Evaluator.Artifacts
import AgenticEbpf.Summary.Main
import AgenticEbpf.Summary.PerConnection
import AgenticEbpf.Evaluator.Pipeline
