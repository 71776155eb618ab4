import KdbxCredentials.Lookup.MatchCount
import KdbxCredentials.Lookup.Addressing
import KdbxCredentials.Lookup.Redaction
import KdbxCredentials.Lookup.Agreement
import KdbxCredentials.SecretStore.KeyCheck
import KdbxCredentials.SecretStore.Directory
import KdbxCredentials.SecretStore.Agreement
import KdbxCredentials.Opening.Classification
import KdbxCredentials.Opening.Permission
import KdbxCredentials.Paths.Grammar
import KdbxCredentials.Paths.Normal
import KdbxCredentials.Lookup.Provenance
import KdbxCredentials.Lookup.Rearrangement
import KdbxCredentials.CSharp.WindowsSecretStore
import KdbxCredentials.SecretStore.Verbatim
import KdbxCredentials.Lookup.CaseFolding
import KdbxCredentials.Lookup.Lowercasing
import KdbxCredentials.Effects.Core
import KdbxCredentials.Effects.Triple
import KdbxCredentials.Posix.Timeline
import KdbxCredentials.CSharp.OpenCalls
import KdbxCredentials.Rust.OpenCalls
import KdbxCredentials.Opening.Interference
import KdbxCredentials.Opening.CallOrder
import KdbxCredentials.CSharp.Memory
import KdbxCredentials.SecretStore.Wiping
import KdbxCredentials.Effects.Relational
import KdbxCredentials.Provisioning.Script
import KdbxCredentials.Provisioning.Shredding
import KdbxCredentials.Provisioning.ReadBack
import KdbxCredentials.Provisioning.Confidentiality
import KdbxCredentials.CSharp.Tools
import KdbxCredentials.Rust.Tools
import KdbxCredentials.Opening.Agreement
import KdbxCredentials.Tools.Retrieval
import KdbxCredentials.Lookup.Naturality
import KdbxCredentials.Tools.Agreement
import KdbxCredentials.Tools.Secrecy
import KdbxCredentials.Tools.DbTask
import KdbxCredentials.Rust.WindowsSecretStore
import KdbxCredentials.SecretStore.WindowsAgreement
import KdbxCredentials.CSharp.Handles
import KdbxCredentials.Handles.Session
import KdbxCredentials.Handles.Redaction
import KdbxCredentials.Tools.Failures
import KdbxCredentials.Tools.Reports
