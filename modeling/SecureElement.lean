import SecureElement.Bus.Script
import SecureElement.KeyStore.Stores
import SecureElement.Main
import SecureElement.Proofs.Runs
import SecureElement.Proofs.Alike
import SecureElement.Proofs.Crc16.Residue
import SecureElement.Proofs.Crc16.Detection
import SecureElement.Proofs.Crc16.Division
import SecureElement.Proofs.Frame
import SecureElement.Proofs.Frame.Response
import SecureElement.Proofs.Frame.Corruption
import SecureElement.Proofs.Text
import SecureElement.Proofs.Numeral
import SecureElement.Proofs.Hex
import SecureElement.Proofs.CommandLine.Value
import SecureElement.Proofs.Toml.Grammar
import SecureElement.Proofs.Toml.Strings
import SecureElement.Proofs.Toml.Quote
import SecureElement.Proofs.Toml.Integers
import SecureElement.Proofs.Toml.Document
import SecureElement.Proofs.Digest
import SecureElement.Proofs.SlotConfig
import SecureElement.Proofs.Bus.Log
import SecureElement.Proofs.FileSystem
import SecureElement.Proofs.Chip.Memory
import SecureElement.Proofs.Chip.Core
import SecureElement.Proofs.Chip.Bench
import SecureElement.Proofs.Chip.Locality
import SecureElement.Proofs.Chip.Commands
import SecureElement.Proofs.Chip.Digest
import SecureElement.Proofs.Digest.Messages
import SecureElement.Proofs.Digest.Verification
import SecureElement.Proofs.Chip.TempKey
import SecureElement.Proofs.Chip.Effects
import SecureElement.Proofs.Chip.ZoneAccess
import SecureElement.Proofs.Chip.OneWay
import SecureElement.Proofs.Chip.Provenance
import SecureElement.Proofs.Chip.Framing
import SecureElement.Proofs.Device.Lockstep
import SecureElement.Proofs.Device.Exchange
import SecureElement.Proofs.Session
import SecureElement.Proofs.Session.Config
import SecureElement.Proofs.Device.Protocol
import SecureElement.Proofs.Device.Attempts
import SecureElement.Proofs.Device.Conversation
import SecureElement.Proofs.Device.Retries
import SecureElement.Proofs.Device.Zones
import SecureElement.Proofs.Device.Locking
import SecureElement.Proofs.Device.Policies
import SecureElement.Proofs.Device.Power
import SecureElement.Proofs.Device.Mac
import SecureElement.Proofs.Device.CheckMac
import SecureElement.Proofs.Device.Dialogue
import SecureElement.Proofs.Device.Events
import SecureElement.Proofs.Device.Random
import SecureElement.Proofs.Device.Confirmation
import SecureElement.Proofs.Device.EncryptedWrite
import SecureElement.Proofs.Device.Hmac
import SecureElement.Proofs.Device.Arguments
import SecureElement.Proofs.Device.ZoneMemory
import SecureElement.Proofs.KeyStore.Grammar
import SecureElement.Proofs.KeyStore.Reader
import SecureElement.Proofs.KeyStore.Text
import SecureElement.Proofs.KeyStore.Keeps
import SecureElement.Proofs.KeyStore.Interchange
import SecureElement.Proofs.KeyStore.Privacy
import SecureElement.Proofs.Provisioning.Memory
import SecureElement.Proofs.Provisioning.Stages
import SecureElement.Proofs.Provisioning.Progress
import SecureElement.Proofs.Provisioning.Lockstep
import SecureElement.Proofs.Provisioning.LockFrames
import SecureElement.Proofs.Provisioning.Reports
import SecureElement.Proofs.Provisioning.Provenance
import SecureElement.Proofs.Provisioning.Custody
import SecureElement.Proofs.Provisioning.Recovery
import SecureElement.Proofs.Provisioning.Delivery
import SecureElement.Proofs.Provisioning.Verification
import SecureElement.Proofs.Provisioning.Secrecy
import SecureElement.Proofs.Provisioning.Goal
import SecureElement.Proofs.Provisioning.Phases
