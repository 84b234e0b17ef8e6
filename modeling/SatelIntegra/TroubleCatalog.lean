import Mathlib.Data.List.GetD
import Mathlib.Data.List.Perm.Subperm
import SatelIntegra.TroubleReplay

/-!
# The catalog of troubles

The catalog gives each kind of trouble a key, the numbers it may carry, and whether the
panel reports it as a state, as a memory, or both. It is exact for the decoder: every
flag but the reserved bits has one entry that admits it, and every number of every entry
has one bit in one command. Both sides are finite lists of the same length, and a bit is
known by its entry and its number, so that one inclusion gives the other.
-/

namespace SatelIntegra

open CheckedAccess

inductive TroubleDomain where
  | zone
  | output
  deriving DecidableEq, Repr

inductive TroubleAddressing where
  | single
  | range (start stop : UInt16)
  | pair (aStart aStop bStart bStop : UInt16)
  deriving DecidableEq, Repr

inductive TroubleAddress where
  | one (n : UInt16)
  | pair (a b : UInt16)
  deriving DecidableEq, Repr

structure TroubleDescriptor where
  key : String
  labelEn : String
  addressing : TroubleAddressing
  domain : Option TroubleDomain
  hasMemory : Bool
  hasState : Bool
  deriving DecidableEq, Repr

def desc (key label : String) (addr : TroubleAddressing) (domain : Option TroubleDomain) :
    TroubleDescriptor :=
  ⟨key, label, addr, domain, true, true⟩

def descCustom (key label : String) (addr : TroubleAddressing) (domain : Option TroubleDomain)
    (state memory : Bool) : TroubleDescriptor :=
  ⟨key, label, addr, domain, memory, state⟩

namespace TroubleType

def catalog : List TroubleDescriptor :=
  [
   -- Main panel board
   desc "main_board_ac_loss" "Main Board: AC Power Loss (230V)" .single none,
   desc "main_board_battery_low" "Main Board: Battery Low Voltage" .single none,
   desc "main_board_battery_missing" "Main Board: Battery Missing / Disconnected" .single none,
   desc "main_board_out_overload" "Main Board: Supply Output Overload" (.range 1 4) none,
   desc "main_board_kpd_power_overload" "Main Board: Keypad Power Supply (+KPD) Overload"
     .single none,
   desc "main_board_ex_power_overload" "Main Board: Expander Power Supply (+EX1/+EX2) Overload"
     .single none,
   desc "main_board_data_bus_dt1" "Main Board: Data Bus DT1 Communication Error" .single none,
   desc "main_board_data_bus_dt2" "Main Board: Data Bus DT2 Communication Error" .single none,
   desc "main_board_data_bus_dtm" "Main Board: Data Bus DTM Communication Error" .single none,
   desc "rtc_loss" "Main Board: Real-Time Clock (RTC) Loss / Not Set" .single none,
   desc "no_dtr_signal" "Main Board: No DTR Signal on RS-232 Port" .single none,
   desc "external_modem_init_trouble" "Main Board: External Modem Initialization Error"
     .single none,
   desc "external_modem_cmd_trouble" "Main Board: External Modem Command Error" .single none,
   desc "telephone_line_no_voltage" "Telephone Line: No Voltage" .single none,
   desc "telephone_line_bad_signal" "Telephone Line: Bad Signal" .single none,
   desc "telephone_line_no_signal" "Telephone Line: No Dial Tone" .single none,
   desc "monitoring_station1_trouble" "Monitoring: Station 1 Transmission Fault" .single none,
   desc "monitoring_station2_trouble" "Monitoring: Station 2 Transmission Fault" .single none,
   desc "eeprom_rtc_trouble" "Main Board: EEPROM / RTC Access Trouble" .single none,
   desc "ram_memory_error" "Main Board: RAM Memory Error" .single none,
   desc "main_panel_restart" "Main Board: Panel Restart Latched" .single none,
   -- Technical zones
   desc "technical_zone_trouble" "Technical Zone: Trouble Detected" (.range 1 256) (some .zone),
   -- Expanders
   desc "expander_ac_loss" "Expander: AC Power Loss" (.range 1 64) none,
   desc "expander_battery_low" "Expander: Battery Low Voltage" (.range 1 64) none,
   desc "expander_battery_missing" "Expander: Battery Missing" (.range 1 64) none,
   desc "expander_supply_overload" "Expander: Power Supply Overload" (.range 1 64) none,
   desc "expander_no_comm" "Expander: No Communication" (.range 1 64) none,
   desc "expander_substituted" "Expander: Substituted / Unknown Hardware" (.range 1 64) none,
   desc "expander_tamper" "Expander: Tamper / Sabotage" (.range 1 64) none,
   desc "expander_card_reader_head_a" "Expander: Card Reader Head A / Synchro Trouble"
     (.range 1 64) none,
   desc "expander_card_reader_head_b" "Expander: Card Reader Head B / Charging Trouble"
     (.range 1 64) none,
   desc "expander_acu_jammed_or_short_circuit" "Expander: Jammed / Addressable Loop Short Circuit"
     (.range 1 30) none,
   -- Keypads
   desc "keypad_no_comm" "Keypad: No Communication" (.range 1 8) none,
   desc "keypad_substituted" "Keypad: Substituted" (.range 1 8) none,
   desc "keypad_tamper" "Keypad: Tamper / Sabotage" (.range 1 8) none,
   desc "keypad_init_error" "Keypad: Initialization Error" (.range 1 8) none,
   -- Communication modules
   desc "ethm_no_lan_cable" "ETHM-1: Ethernet LAN Cable Unplugged" (.range 1 8) none,
   desc "gsm_ethm_station_1_error" "INT-GSM/ETHM-1: Station 1 Transmission Error" (.range 0 7) none,
   desc "gsm_ethm_station_2_error" "INT-GSM/ETHM-1: Station 2 Transmission Error" (.range 0 7) none,
   desc "gsm_gprs_sim1_station_1_error" "INT-GSM: GPRS SIM 1 Station 1 Error" (.range 0 7) none,
   desc "gsm_gprs_sim1_station_2_error" "INT-GSM: GPRS SIM 1 Station 2 Error" (.range 0 7) none,
   desc "gsm_gprs_sim2_station_1_error" "INT-GSM: GPRS SIM 2 Station 1 Error" (.range 0 7) none,
   desc "gsm_gprs_sim2_station_2_error" "INT-GSM: GPRS SIM 2 Station 2 Error" (.range 0 7) none,
   desc "gsm_sms_sim1_station_1_error" "INT-GSM: SMS SIM 1 Station 1 Error" (.range 0 7) none,
   desc "gsm_sms_sim1_station_2_error" "INT-GSM: SMS SIM 1 Station 2 Error" (.range 0 7) none,
   desc "gsm_sms_sim2_station_1_error" "INT-GSM: SMS SIM 2 Station 1 Error" (.range 0 7) none,
   desc "gsm_sms_sim2_station_2_error" "INT-GSM: SMS SIM 2 Station 2 Error" (.range 0 7) none,
   descCustom "zone_long_violation_trouble" "Zone: Long Violation"
     (.range 1 256) (some .zone) false true,
   descCustom "zone_no_violation_trouble" "Zone: No Violation"
     (.range 1 256) (some .zone) false true,
   descCustom "zone_tamper_trouble" "Zone: Tamper" (.range 1 256) (some .zone) false true,
   descCustom "expander_restart" "Expander: Restart" (.range 1 64) none false true,
   descCustom "keypad_restart" "Keypad: Restart" (.range 1 8) none false true,
   desc "ethm_ping_trouble" "ETHM-1: Ping Network Test Failed" (.range 1 8) none,
   desc "ethm_server_id_error" "ETHM-1: SATEL Server MAC/ID Verification Error" (.range 1 8) none,
   desc "ethm_satel_server_connection_error" "ETHM-1: No Connection to SATEL Server"
     (.range 1 8) none,
   desc "ethm_monitoring_station1_error" "ETHM-1: Monitoring Station 1 Connection Error"
     .single none,
   desc "ethm_monitoring_station2_error" "ETHM-1: Monitoring Station 2 Connection Error"
     .single none,
   desc "gprs_monitoring_station1_error" "INT-GSM: GPRS Monitoring Station 1 Error" .single none,
   desc "gprs_monitoring_station2_error" "INT-GSM: GPRS Monitoring Station 2 Error" .single none,
   desc "ip_monitoring_station1_trouble" "IP Monitoring: Station 1 Communication Trouble"
     .single none,
   desc "ip_monitoring_station2_trouble" "IP Monitoring: Station 2 Communication Trouble"
     .single none,
   desc "time_server_trouble" "Network: NTP Time Synchronization Server Error" .single none,
   desc "gsm_init_error" "INT-GSM: Module Initialization Error" .single none,
   desc "gsm_jamming" "INT-GSM: Cellular Jamming Detected" (.range 0 7) none,
   desc "gsm_sim_pin_error" "INT-GSM: SIM Wrong PIN" (.pair 0 7 1 2) none,
   desc "gsm_sim_logging_error" "INT-GSM: SIM Network Registration Error" (.pair 0 7 1 2) none,
   desc "gsm_sim_credit_low" "INT-GSM: SIM Account Credit Low" (.pair 0 7 1 2) none,
   desc "gsm_sim_sms_error" "INT-GSM: SIM SMS Sending Error" (.pair 0 7 1 2) none,
   desc "gsm_settings_crc_error" "INT-GSM: Settings CRC Checksum Error" (.range 0 7) none,
   desc "gsm_module_missing" "INT-GSM: Module Missing" (.range 0 7) none,
   desc "gsm_module_changed" "INT-GSM: Module Changed" (.range 0 7) none,
   desc "gsm_server_conn_error" "INT-GSM: Server Connection Error" (.range 0 7) none,
   desc "gsm_mail_server_conn_error" "INT-GSM: Mail Server Error" (.range 0 7) none,
   desc "gsm_ntp_server_conn_error" "INT-GSM: NTP Server Error" (.range 0 7) none,
   -- Wireless devices
   desc "wireless_device_low_battery" "Wireless Sensor: Low Battery" (.range 17 256) (some .zone),
   desc "wireless_device_no_comm" "Wireless Sensor: No Radio Communication"
     (.range 17 256) (some .zone),
   desc "wireless_output_no_comm" "Wireless Output: No Radio Communication"
     (.range 17 256) (some .output),
   -- Key fobs
   descCustom "master_key_fob_low_battery" "Master User Key Fob: Low Battery"
     (.range 1 8) none true false,
   descCustom "user_key_fob_low_battery" "User Key Fob: Low Battery" (.range 1 240) none true false,
   -- Other
   desc "auxiliary_stm_troubles" "Auxiliary Microprocessor (STM) Trouble" .single none]

def key : TroubleType → Option String
  | .mainBoardAcLoss => some "main_board_ac_loss"
  | .mainBoardBatteryLow => some "main_board_battery_low"
  | .mainBoardBatteryMissing => some "main_board_battery_missing"
  | .mainBoardOutOverload _ => some "main_board_out_overload"
  | .mainBoardKpdPowerOverload => some "main_board_kpd_power_overload"
  | .mainBoardExPowerOverload => some "main_board_ex_power_overload"
  | .mainBoardDataBusDt1 => some "main_board_data_bus_dt1"
  | .mainBoardDataBusDt2 => some "main_board_data_bus_dt2"
  | .mainBoardDataBusDtm => some "main_board_data_bus_dtm"
  | .rtcLoss => some "rtc_loss"
  | .noDtrSignal => some "no_dtr_signal"
  | .externalModemInitTrouble => some "external_modem_init_trouble"
  | .externalModemCmdTrouble => some "external_modem_cmd_trouble"
  | .telephoneLineNoVoltage => some "telephone_line_no_voltage"
  | .telephoneLineBadSignal => some "telephone_line_bad_signal"
  | .telephoneLineNoSignal => some "telephone_line_no_signal"
  | .monitoringStation1Trouble => some "monitoring_station1_trouble"
  | .monitoringStation2Trouble => some "monitoring_station2_trouble"
  | .eepromRtcTrouble => some "eeprom_rtc_trouble"
  | .ramMemoryError => some "ram_memory_error"
  | .mainPanelRestartMemory => some "main_panel_restart"
  | .technicalZoneTrouble _ => some "technical_zone_trouble"
  | .expanderAcLoss _ => some "expander_ac_loss"
  | .expanderBatteryLow _ => some "expander_battery_low"
  | .expanderBatteryMissing _ => some "expander_battery_missing"
  | .expanderSupplyOverload _ => some "expander_supply_overload"
  | .expanderNoComm _ => some "expander_no_comm"
  | .expanderSubstituted _ => some "expander_substituted"
  | .expanderTamper _ => some "expander_tamper"
  | .expanderCardReaderHeadA _ => some "expander_card_reader_head_a"
  | .expanderCardReaderHeadB _ => some "expander_card_reader_head_b"
  | .expanderAcuJammedOrShortCircuit _ => some "expander_acu_jammed_or_short_circuit"
  | .keypadNoComm _ => some "keypad_no_comm"
  | .keypadSubstituted _ => some "keypad_substituted"
  | .keypadTamper _ => some "keypad_tamper"
  | .keypadInitError _ => some "keypad_init_error"
  | .ethmNoLanCable _ => some "ethm_no_lan_cable"
  | .ethmPingTrouble _ => some "ethm_ping_trouble"
  | .ethmServerIdError _ => some "ethm_server_id_error"
  | .ethmSatelServerConnectionError _ => some "ethm_satel_server_connection_error"
  | .ethmMonitoringStation1Error => some "ethm_monitoring_station1_error"
  | .ethmMonitoringStation2Error => some "ethm_monitoring_station2_error"
  | .gprsMonitoringStation1Error => some "gprs_monitoring_station1_error"
  | .gprsMonitoringStation2Error => some "gprs_monitoring_station2_error"
  | .ipMonitoringStation1Trouble => some "ip_monitoring_station1_trouble"
  | .ipMonitoringStation2Trouble => some "ip_monitoring_station2_trouble"
  | .timeServerTrouble => some "time_server_trouble"
  | .gsmInitError => some "gsm_init_error"
  | .gsmJamming _ => some "gsm_jamming"
  | .gsmSimPinError .. => some "gsm_sim_pin_error"
  | .gsmSimLoggingError .. => some "gsm_sim_logging_error"
  | .gsmSimCreditLow .. => some "gsm_sim_credit_low"
  | .gsmSimSmsError .. => some "gsm_sim_sms_error"
  | .gsmSettingsCrcError _ => some "gsm_settings_crc_error"
  | .gsmModuleMissing _ => some "gsm_module_missing"
  | .gsmModuleChanged _ => some "gsm_module_changed"
  | .gsmServerConnError _ => some "gsm_server_conn_error"
  | .gsmMailServerConnError _ => some "gsm_mail_server_conn_error"
  | .gsmNtpServerConnError _ => some "gsm_ntp_server_conn_error"
  | .wirelessDeviceLowBattery .. => some "wireless_device_low_battery"
  | .wirelessDeviceNoComm .. => some "wireless_device_no_comm"
  | .wirelessOutputNoComm .. => some "wireless_output_no_comm"
  | .masterKeyFobLowBattery _ => some "master_key_fob_low_battery"
  | .userKeyFobLowBattery .. => some "user_key_fob_low_battery"
  | .gsmEthmStation1Error _ => some "gsm_ethm_station_1_error"
  | .gsmEthmStation2Error _ => some "gsm_ethm_station_2_error"
  | .gsmGprsSim1Station1Error _ => some "gsm_gprs_sim1_station_1_error"
  | .gsmGprsSim1Station2Error _ => some "gsm_gprs_sim1_station_2_error"
  | .gsmGprsSim2Station1Error _ => some "gsm_gprs_sim2_station_1_error"
  | .gsmGprsSim2Station2Error _ => some "gsm_gprs_sim2_station_2_error"
  | .gsmSmsSim1Station1Error _ => some "gsm_sms_sim1_station_1_error"
  | .gsmSmsSim1Station2Error _ => some "gsm_sms_sim1_station_2_error"
  | .gsmSmsSim2Station1Error _ => some "gsm_sms_sim2_station_1_error"
  | .gsmSmsSim2Station2Error _ => some "gsm_sms_sim2_station_2_error"
  | .zoneLongViolationTrouble _ => some "zone_long_violation_trouble"
  | .zoneNoViolationTrouble _ => some "zone_no_violation_trouble"
  | .zoneTamperTrouble _ => some "zone_tamper_trouble"
  | .expanderRestart _ => some "expander_restart"
  | .keypadRestart _ => some "keypad_restart"
  | .auxiliaryStmTroubles => some "auxiliary_stm_troubles"
  | .genericTrouble .. => none

def address : TroubleType → Option TroubleAddress
  | .mainBoardAcLoss => some (.one 1)
  | .mainBoardBatteryLow => some (.one 1)
  | .mainBoardBatteryMissing => some (.one 1)
  | .mainBoardOutOverload n => some (.one n.toUInt16)
  | .mainBoardKpdPowerOverload => some (.one 1)
  | .mainBoardExPowerOverload => some (.one 1)
  | .mainBoardDataBusDt1 => some (.one 1)
  | .mainBoardDataBusDt2 => some (.one 1)
  | .mainBoardDataBusDtm => some (.one 1)
  | .rtcLoss => some (.one 1)
  | .noDtrSignal => some (.one 1)
  | .externalModemInitTrouble => some (.one 1)
  | .externalModemCmdTrouble => some (.one 1)
  | .telephoneLineNoVoltage => some (.one 1)
  | .telephoneLineBadSignal => some (.one 1)
  | .telephoneLineNoSignal => some (.one 1)
  | .monitoringStation1Trouble => some (.one 1)
  | .monitoringStation2Trouble => some (.one 1)
  | .eepromRtcTrouble => some (.one 1)
  | .ramMemoryError => some (.one 1)
  | .mainPanelRestartMemory => some (.one 1)
  | .technicalZoneTrouble n => some (.one n)
  | .expanderAcLoss n => some (.one n.toUInt16)
  | .expanderBatteryLow n => some (.one n.toUInt16)
  | .expanderBatteryMissing n => some (.one n.toUInt16)
  | .expanderSupplyOverload n => some (.one n.toUInt16)
  | .expanderNoComm n => some (.one n.toUInt16)
  | .expanderSubstituted n => some (.one n.toUInt16)
  | .expanderTamper n => some (.one n.toUInt16)
  | .expanderCardReaderHeadA n => some (.one n.toUInt16)
  | .expanderCardReaderHeadB n => some (.one n.toUInt16)
  | .expanderAcuJammedOrShortCircuit n => some (.one n.toUInt16)
  | .keypadNoComm n => some (.one n.toUInt16)
  | .keypadSubstituted n => some (.one n.toUInt16)
  | .keypadTamper n => some (.one n.toUInt16)
  | .keypadInitError n => some (.one n.toUInt16)
  | .ethmNoLanCable n => some (.one n.toUInt16)
  | .ethmPingTrouble n => some (.one n.toUInt16)
  | .ethmServerIdError n => some (.one n.toUInt16)
  | .ethmSatelServerConnectionError n => some (.one n.toUInt16)
  | .ethmMonitoringStation1Error => some (.one 1)
  | .ethmMonitoringStation2Error => some (.one 1)
  | .gprsMonitoringStation1Error => some (.one 1)
  | .gprsMonitoringStation2Error => some (.one 1)
  | .ipMonitoringStation1Trouble => some (.one 1)
  | .ipMonitoringStation2Trouble => some (.one 1)
  | .timeServerTrouble => some (.one 1)
  | .gsmInitError => some (.one 1)
  | .gsmJamming n => some (.one n.toUInt16)
  | .gsmSimPinError module sim => some (.pair module.toUInt16 sim.toUInt16)
  | .gsmSimLoggingError module sim => some (.pair module.toUInt16 sim.toUInt16)
  | .gsmSimCreditLow module sim => some (.pair module.toUInt16 sim.toUInt16)
  | .gsmSimSmsError module sim => some (.pair module.toUInt16 sim.toUInt16)
  | .gsmSettingsCrcError n => some (.one n.toUInt16)
  | .gsmModuleMissing n => some (.one n.toUInt16)
  | .gsmModuleChanged n => some (.one n.toUInt16)
  | .gsmServerConnError n => some (.one n.toUInt16)
  | .gsmMailServerConnError n => some (.one n.toUInt16)
  | .gsmNtpServerConnError n => some (.one n.toUInt16)
  | .wirelessDeviceLowBattery n => some (.one n)
  | .wirelessDeviceNoComm n => some (.one n)
  | .wirelessOutputNoComm n => some (.one n)
  | .masterKeyFobLowBattery n => some (.one n.toUInt16)
  | .userKeyFobLowBattery n => some (.one n)
  | .gsmEthmStation1Error n => some (.one n.toUInt16)
  | .gsmEthmStation2Error n => some (.one n.toUInt16)
  | .gsmGprsSim1Station1Error n => some (.one n.toUInt16)
  | .gsmGprsSim1Station2Error n => some (.one n.toUInt16)
  | .gsmGprsSim2Station1Error n => some (.one n.toUInt16)
  | .gsmGprsSim2Station2Error n => some (.one n.toUInt16)
  | .gsmSmsSim1Station1Error n => some (.one n.toUInt16)
  | .gsmSmsSim1Station2Error n => some (.one n.toUInt16)
  | .gsmSmsSim2Station1Error n => some (.one n.toUInt16)
  | .gsmSmsSim2Station2Error n => some (.one n.toUInt16)
  | .zoneLongViolationTrouble n => some (.one n)
  | .zoneNoViolationTrouble n => some (.one n)
  | .zoneTamperTrouble n => some (.one n)
  | .expanderRestart n => some (.one n.toUInt16)
  | .keypadRestart n => some (.one n.toUInt16)
  | .auxiliaryStmTroubles => some (.one 1)
  | .genericTrouble .. => none

end TroubleType

section Entries

/-- The numbers that an entry admits. -/
def TroubleAddressing.Admits : TroubleAddressing → TroubleAddress → Prop
  | .single, .one n => n = 1
  | .range start stop, .one n => start ≤ n ∧ n ≤ stop
  | .pair aStart aStop bStart bStop, .pair a b =>
    (aStart ≤ a ∧ a ≤ aStop) ∧ bStart ≤ b ∧ b ≤ bStop
  | _, _ => False

instance (addressing : TroubleAddressing) (address : TroubleAddress) :
    Decidable (addressing.Admits address) :=
  match addressing, address with
  | .single, .one n => inferInstanceAs (Decidable (n = 1))
  | .range start stop, .one n => inferInstanceAs (Decidable (start ≤ n ∧ n ≤ stop))
  | .pair aStart aStop bStart bStop, .pair a b =>
    inferInstanceAs (Decidable ((aStart ≤ a ∧ a ≤ aStop) ∧ bStart ≤ b ∧ b ≤ bStop))
  | .single, .pair .. => isFalse id
  | .range .., .pair .. => isFalse id
  | .pair .., .one _ => isFalse id

/-- The entry is for memories, or for states. -/
def TroubleDescriptor.offers (entry : TroubleDescriptor) (memory : Bool) : Bool :=
  if memory then entry.hasMemory else entry.hasState

/-- The position of the entry of a trouble. -/
def TroubleType.index : TroubleType → Nat
  | .mainBoardAcLoss => 0
  | .mainBoardBatteryLow => 1
  | .mainBoardBatteryMissing => 2
  | .mainBoardOutOverload .. => 3
  | .mainBoardKpdPowerOverload => 4
  | .mainBoardExPowerOverload => 5
  | .mainBoardDataBusDt1 => 6
  | .mainBoardDataBusDt2 => 7
  | .mainBoardDataBusDtm => 8
  | .rtcLoss => 9
  | .noDtrSignal => 10
  | .externalModemInitTrouble => 11
  | .externalModemCmdTrouble => 12
  | .telephoneLineNoVoltage => 13
  | .telephoneLineBadSignal => 14
  | .telephoneLineNoSignal => 15
  | .monitoringStation1Trouble => 16
  | .monitoringStation2Trouble => 17
  | .eepromRtcTrouble => 18
  | .ramMemoryError => 19
  | .mainPanelRestartMemory => 20
  | .technicalZoneTrouble .. => 21
  | .expanderAcLoss .. => 22
  | .expanderBatteryLow .. => 23
  | .expanderBatteryMissing .. => 24
  | .expanderSupplyOverload .. => 25
  | .expanderNoComm .. => 26
  | .expanderSubstituted .. => 27
  | .expanderTamper .. => 28
  | .expanderCardReaderHeadA .. => 29
  | .expanderCardReaderHeadB .. => 30
  | .expanderAcuJammedOrShortCircuit .. => 31
  | .keypadNoComm .. => 32
  | .keypadSubstituted .. => 33
  | .keypadTamper .. => 34
  | .keypadInitError .. => 35
  | .ethmNoLanCable .. => 36
  | .ethmPingTrouble .. => 52
  | .ethmServerIdError .. => 53
  | .ethmSatelServerConnectionError .. => 54
  | .ethmMonitoringStation1Error => 55
  | .ethmMonitoringStation2Error => 56
  | .gprsMonitoringStation1Error => 57
  | .gprsMonitoringStation2Error => 58
  | .ipMonitoringStation1Trouble => 59
  | .ipMonitoringStation2Trouble => 60
  | .timeServerTrouble => 61
  | .gsmInitError => 62
  | .gsmJamming .. => 63
  | .gsmSimPinError .. => 64
  | .gsmSimLoggingError .. => 65
  | .gsmSimCreditLow .. => 66
  | .gsmSimSmsError .. => 67
  | .gsmSettingsCrcError .. => 68
  | .gsmModuleMissing .. => 69
  | .gsmModuleChanged .. => 70
  | .gsmServerConnError .. => 71
  | .gsmMailServerConnError .. => 72
  | .gsmNtpServerConnError .. => 73
  | .wirelessDeviceLowBattery .. => 74
  | .wirelessDeviceNoComm .. => 75
  | .wirelessOutputNoComm .. => 76
  | .masterKeyFobLowBattery .. => 77
  | .userKeyFobLowBattery .. => 78
  | .gsmEthmStation1Error .. => 37
  | .gsmEthmStation2Error .. => 38
  | .gsmGprsSim1Station1Error .. => 39
  | .gsmGprsSim1Station2Error .. => 40
  | .gsmGprsSim2Station1Error .. => 41
  | .gsmGprsSim2Station2Error .. => 42
  | .gsmSmsSim1Station1Error .. => 43
  | .gsmSmsSim1Station2Error .. => 44
  | .gsmSmsSim2Station1Error .. => 45
  | .gsmSmsSim2Station2Error .. => 46
  | .zoneLongViolationTrouble .. => 47
  | .zoneNoViolationTrouble .. => 48
  | .zoneTamperTrouble .. => 49
  | .expanderRestart .. => 50
  | .keypadRestart .. => 51
  | .auxiliaryStmTroubles => 79
  | .genericTrouble .. => 80

/-- The trouble with that entry and that address. -/
def TroubleType.rebuild : Nat → TroubleAddress → TroubleType
  | 0, _ => .mainBoardAcLoss
  | 1, _ => .mainBoardBatteryLow
  | 2, _ => .mainBoardBatteryMissing
  | 3, .one n => .mainBoardOutOverload n.toUInt8
  | 4, _ => .mainBoardKpdPowerOverload
  | 5, _ => .mainBoardExPowerOverload
  | 6, _ => .mainBoardDataBusDt1
  | 7, _ => .mainBoardDataBusDt2
  | 8, _ => .mainBoardDataBusDtm
  | 9, _ => .rtcLoss
  | 10, _ => .noDtrSignal
  | 11, _ => .externalModemInitTrouble
  | 12, _ => .externalModemCmdTrouble
  | 13, _ => .telephoneLineNoVoltage
  | 14, _ => .telephoneLineBadSignal
  | 15, _ => .telephoneLineNoSignal
  | 16, _ => .monitoringStation1Trouble
  | 17, _ => .monitoringStation2Trouble
  | 18, _ => .eepromRtcTrouble
  | 19, _ => .ramMemoryError
  | 20, _ => .mainPanelRestartMemory
  | 21, .one n => .technicalZoneTrouble n
  | 22, .one n => .expanderAcLoss n.toUInt8
  | 23, .one n => .expanderBatteryLow n.toUInt8
  | 24, .one n => .expanderBatteryMissing n.toUInt8
  | 25, .one n => .expanderSupplyOverload n.toUInt8
  | 26, .one n => .expanderNoComm n.toUInt8
  | 27, .one n => .expanderSubstituted n.toUInt8
  | 28, .one n => .expanderTamper n.toUInt8
  | 29, .one n => .expanderCardReaderHeadA n.toUInt8
  | 30, .one n => .expanderCardReaderHeadB n.toUInt8
  | 31, .one n => .expanderAcuJammedOrShortCircuit n.toUInt8
  | 32, .one n => .keypadNoComm n.toUInt8
  | 33, .one n => .keypadSubstituted n.toUInt8
  | 34, .one n => .keypadTamper n.toUInt8
  | 35, .one n => .keypadInitError n.toUInt8
  | 36, .one n => .ethmNoLanCable n.toUInt8
  | 37, .one n => .gsmEthmStation1Error n.toUInt8
  | 38, .one n => .gsmEthmStation2Error n.toUInt8
  | 39, .one n => .gsmGprsSim1Station1Error n.toUInt8
  | 40, .one n => .gsmGprsSim1Station2Error n.toUInt8
  | 41, .one n => .gsmGprsSim2Station1Error n.toUInt8
  | 42, .one n => .gsmGprsSim2Station2Error n.toUInt8
  | 43, .one n => .gsmSmsSim1Station1Error n.toUInt8
  | 44, .one n => .gsmSmsSim1Station2Error n.toUInt8
  | 45, .one n => .gsmSmsSim2Station1Error n.toUInt8
  | 46, .one n => .gsmSmsSim2Station2Error n.toUInt8
  | 47, .one n => .zoneLongViolationTrouble n
  | 48, .one n => .zoneNoViolationTrouble n
  | 49, .one n => .zoneTamperTrouble n
  | 50, .one n => .expanderRestart n.toUInt8
  | 51, .one n => .keypadRestart n.toUInt8
  | 52, .one n => .ethmPingTrouble n.toUInt8
  | 53, .one n => .ethmServerIdError n.toUInt8
  | 54, .one n => .ethmSatelServerConnectionError n.toUInt8
  | 55, _ => .ethmMonitoringStation1Error
  | 56, _ => .ethmMonitoringStation2Error
  | 57, _ => .gprsMonitoringStation1Error
  | 58, _ => .gprsMonitoringStation2Error
  | 59, _ => .ipMonitoringStation1Trouble
  | 60, _ => .ipMonitoringStation2Trouble
  | 61, _ => .timeServerTrouble
  | 62, _ => .gsmInitError
  | 63, .one n => .gsmJamming n.toUInt8
  | 64, .pair a b => .gsmSimPinError a.toUInt8 b.toUInt8
  | 65, .pair a b => .gsmSimLoggingError a.toUInt8 b.toUInt8
  | 66, .pair a b => .gsmSimCreditLow a.toUInt8 b.toUInt8
  | 67, .pair a b => .gsmSimSmsError a.toUInt8 b.toUInt8
  | 68, .one n => .gsmSettingsCrcError n.toUInt8
  | 69, .one n => .gsmModuleMissing n.toUInt8
  | 70, .one n => .gsmModuleChanged n.toUInt8
  | 71, .one n => .gsmServerConnError n.toUInt8
  | 72, .one n => .gsmMailServerConnError n.toUInt8
  | 73, .one n => .gsmNtpServerConnError n.toUInt8
  | 74, .one n => .wirelessDeviceLowBattery n
  | 75, .one n => .wirelessDeviceNoComm n
  | 76, .one n => .wirelessOutputNoComm n
  | 77, .one n => .masterKeyFobLowBattery n.toUInt8
  | 78, .one n => .userKeyFobLowBattery n
  | 79, _ => .auxiliaryStmTroubles
  | _, _ => .genericTrouble 0 0

lemma index_key (trouble : TroubleType) (real : trouble.isGeneric = false) :
    ∃ entry, TroubleType.catalog[trouble.index]? = some entry ∧ trouble.key = some entry.key := by
  cases trouble <;> first | exact ⟨_, rfl, rfl⟩ | cases real

lemma rebuild_address (trouble : TroubleType) (real : trouble.isGeneric = false) :
    ∃ address, trouble.address = some address ∧
      TroubleType.rebuild trouble.index address = trouble := by
  cases trouble
  case genericTrouble => cases real
  all_goals
    refine ⟨_, rfl, ?_⟩
    conv_lhs => whnf
  all_goals simp

lemma catalog_keys_nodup : (TroubleType.catalog.map (·.key)).Nodup := by
  decide

/-- Entry and address make up the trouble. -/
lemma index_address_injective {trouble trouble' : TroubleType} (real : trouble.isGeneric = false)
    (real' : trouble'.isGeneric = false) (index : trouble.index = trouble'.index)
    (address : trouble.address = trouble'.address) : trouble = trouble' := by
  obtain ⟨a, ha, hrebuild⟩ := rebuild_address trouble real
  obtain ⟨a', ha', hrebuild'⟩ := rebuild_address trouble' real'
  have same : a = a' := Option.some.inj (ha.symm.trans (address.trans ha'))
  rw [← hrebuild, ← hrebuild', index, same]

lemma isGeneric_of_key {trouble : TroubleType} {key : String} (h : trouble.key = some key) :
    trouble.isGeneric = false := by
  cases trouble <;> first | rfl | cases h

/-- The entry of a trouble is found by its key. -/
lemma index_of_key {trouble : TroubleType} {entry : TroubleDescriptor} {i : Nat}
    (hentry : TroubleType.catalog[i]? = some entry) (h : trouble.key = some entry.key) :
    trouble.index = i := by
  obtain ⟨entry', hentry', hkey⟩ := index_key trouble (isGeneric_of_key h)
  have same : (TroubleType.catalog.map (·.key))[trouble.index]? =
      (TroubleType.catalog.map (·.key))[i]? := by
    rw [List.getElem?_map, List.getElem?_map, hentry, hentry']
    exact (hkey.symm.trans h)
  have bound : trouble.index < (TroubleType.catalog.map (·.key)).length := by
    rw [List.length_map]
    exact (List.getElem?_eq_some_iff.mp hentry').1
  exact (List.getElem?_inj bound catalog_keys_nodup).mp same

end Entries

section Bits

lemma mem_troubleCommands {cmd : UInt8} {slot : Slot} (h : slot ∈ layout cmd) :
    cmd ∈ troubleCommands := by
  unfold layout at h
  cases hr : getRules cmd with
  | none => simp [hr] at h
  | some entry =>
    unfold getRules at hr
    split at hr <;> first | decide | cases hr

/-- The slot's own entry admits it. -/
def Slot.provided (slot : Slot) : Bool :=
  slot.trouble.isGeneric ||
    match TroubleType.catalog[slot.trouble.index]?, slot.trouble.address with
    | some entry, some address =>
      entry.offers slot.memory && decide (entry.addressing.Admits address)
    | _, _ => false

lemma layout_provided {cmd : UInt8} {slot : Slot} (h : slot ∈ layout cmd) :
    slot.provided = true := by
  have all : ∀ cmd ∈ troubleCommands, ∀ slot ∈ layout cmd, slot.provided = true := by
    decide +kernel
  exact all cmd (mem_troubleCommands h) slot h

/-- The slots of states, or of memories, without the reserved bits. -/
def namedSlots (memory : Bool) : List Slot :=
  (troubleCommands.flatMap layout).filter fun slot =>
    slot.memory == memory && !slot.trouble.isGeneric

def Slot.entryPlace (slot : Slot) : Nat × Option TroubleAddress :=
  (slot.trouble.index, slot.trouble.address)

def TroubleAddressing.addresses : TroubleAddressing → List TroubleAddress
  | .single => [.one 1]
  | .range start stop => (numbersFrom start stop).map .one
  | .pair aStart aStop bStart bStop =>
    (numbersFrom aStart aStop).flatMap fun a => (numbersFrom bStart bStop).map (.pair a)
where
  numbersFrom (start stop : UInt16) : List UInt16 :=
    (List.range' start.toNat (stop.toNat + 1 - start.toNat)).map UInt16.ofNat

/-- Every address of every entry for states, or for memories. -/
def entryPlaces (memory : Bool) : List (Nat × Option TroubleAddress) :=
  TroubleType.catalog.zipIdx.flatMap fun (entry, i) =>
    if entry.offers memory then entry.addressing.addresses.map fun address => (i, some address)
    else []

lemma mem_numbersFrom {start stop n : UInt16} :
    n ∈ TroubleAddressing.addresses.numbersFrom start stop ↔ start ≤ n ∧ n ≤ stop := by
  have bound := n.toNat_lt
  have stopBound := stop.toNat_lt
  rw [TroubleAddressing.addresses.numbersFrom, List.mem_map, UInt16.le_iff_toNat_le,
    UInt16.le_iff_toNat_le]
  constructor
  · rintro ⟨k, hk, rfl⟩
    rw [List.mem_range'_1] at hk
    have bound' : k < 65536 := by omega
    have small : (UInt16.ofNat k).toNat = k := UInt16.toNat_ofNat_of_lt' bound'
    omega
  · rintro ⟨low, high⟩
    refine ⟨n.toNat, List.mem_range'_1.mpr ⟨low, by omega⟩, UInt16.ofNat_toNat⟩

lemma mem_addresses {addressing : TroubleAddressing} {address : TroubleAddress} :
    address ∈ addressing.addresses ↔ addressing.Admits address := by
  cases addressing <;> cases address <;>
    simp [TroubleAddressing.addresses, TroubleAddressing.Admits, mem_numbersFrom]

lemma mem_entryPlaces {memory : Bool} {i : Nat} {address : TroubleAddress} :
    (i, some address) ∈ entryPlaces memory ↔
      ∃ entry, TroubleType.catalog[i]? = some entry ∧ entry.offers memory = true ∧
        entry.addressing.Admits address := by
  constructor
  · intro h
    obtain ⟨⟨entry, j⟩, hentry, hmem⟩ := List.mem_flatMap.mp h
    cases offered : entry.offers memory with
    | false => simp [offered] at hmem
    | true =>
      have place : address ∈ entry.addressing.addresses ∧ j = i := by simpa [offered] using hmem
      obtain ⟨admitted, rfl⟩ := place
      exact ⟨entry, List.mem_zipIdx_iff_getElem?.mp hentry, offered, mem_addresses.mp admitted⟩
  · rintro ⟨entry, hentry, offered, admitted⟩
    refine List.mem_flatMap.mpr ⟨(entry, i), List.mem_zipIdx_iff_getElem?.mpr hentry, ?_⟩
    simpa [offered] using mem_addresses.mpr admitted

lemma mem_namedSlots {memory : Bool} {slot : Slot} :
    slot ∈ namedSlots memory ↔
      (∃ cmd, slot ∈ layout cmd) ∧ slot.memory = memory ∧ slot.trouble.isGeneric = false := by
  constructor
  · intro h
    obtain ⟨hlayout, hnamed⟩ := List.mem_filter.mp h
    obtain ⟨cmd, -, hslot⟩ := List.mem_flatMap.mp hlayout
    exact ⟨⟨cmd, hslot⟩, by simpa using hnamed⟩
  · rintro ⟨⟨cmd, hslot⟩, rfl, real⟩
    refine List.mem_filter.mpr ⟨?_, by simp [real]⟩
    exact List.mem_flatMap.mpr ⟨cmd, mem_troubleCommands hslot, hslot⟩

lemma slot_entry {cmd : UInt8} {slot : Slot} (h : slot ∈ layout cmd)
    (real : slot.trouble.isGeneric = false) :
    ∃ entry address, TroubleType.catalog[slot.trouble.index]? = some entry ∧
      slot.trouble.address = some address ∧ entry.offers slot.memory = true ∧
      entry.addressing.Admits address := by
  obtain ⟨entry, hentry, -⟩ := index_key slot.trouble real
  obtain ⟨address, haddress, -⟩ := rebuild_address slot.trouble real
  have provided := layout_provided h
  rw [Slot.provided, real, hentry, haddress] at provided
  exact ⟨entry, address, hentry, haddress, by simpa using provided⟩

lemma slots_nodup : (troubleCommands.flatMap layout).Nodup := by
  rw [List.nodup_flatMap]
  constructor
  · intro cmd _
    exact (layout_keys_nodup cmd).of_map
  · have distinct : troubleCommands.Nodup := by decide
    refine distinct.imp ?_
    intro cmd cmd' other slot h h'
    exact other (layout_key_unique h h' rfl).1

lemma places_nodup (memory : Bool) : ((namedSlots memory).map Slot.entryPlace).Nodup := by
  refine List.Nodup.map_on ?_ (slots_nodup.filter _)
  intro slot h slot' h' same
  obtain ⟨⟨cmd, hslot⟩, hmemory, real⟩ := mem_namedSlots.mp h
  obtain ⟨⟨cmd', hslot'⟩, hmemory', real'⟩ := mem_namedSlots.mp h'
  obtain ⟨hindex, haddress⟩ := Prod.mk.inj same
  have troubles := index_address_injective real real' hindex haddress
  have keys : slot.key = slot'.key := Prod.ext troubles (hmemory.trans hmemory'.symm)
  exact (layout_key_unique hslot hslot' keys).2

lemma places_subset (memory : Bool) :
    (namedSlots memory).map Slot.entryPlace ⊆ entryPlaces memory := by
  intro place h
  obtain ⟨slot, hslot, rfl⟩ := List.mem_map.mp h
  obtain ⟨⟨cmd, hlayout⟩, rfl, real⟩ := mem_namedSlots.mp hslot
  obtain ⟨entry, address, hentry, haddress, offered, admitted⟩ := slot_entry hlayout real
  rw [Slot.entryPlace, haddress]
  exact mem_entryPlaces.mpr ⟨entry, hentry, offered, admitted⟩

lemma places_same_length (memory : Bool) :
    (entryPlaces memory).length ≤ ((namedSlots memory).map Slot.entryPlace).length := by
  cases memory <;> decide +kernel

/-- Each address of each entry is the place of one slot. -/
theorem slot_of_entry {memory : Bool} {i : Nat} {entry : TroubleDescriptor}
    {address : TroubleAddress} (hentry : TroubleType.catalog[i]? = some entry)
    (offered : entry.offers memory = true) (admitted : entry.addressing.Admits address) :
    ∃ cmd, ∃ slot ∈ layout cmd, slot.memory = memory ∧ slot.trouble.isGeneric = false ∧
      slot.trouble.index = i ∧ slot.trouble.address = some address := by
  have perm := (List.subperm_of_subset (places_nodup memory) (places_subset memory)
    ).perm_of_length_le (places_same_length memory)
  have place := perm.mem_iff.mpr (mem_entryPlaces.mpr ⟨entry, hentry, offered, admitted⟩)
  obtain ⟨slot, hslot, hplace⟩ := List.mem_map.mp place
  obtain ⟨⟨cmd, hlayout⟩, hmemory, real⟩ := mem_namedSlots.mp hslot
  obtain ⟨hindex, haddress⟩ := Prod.mk.inj hplace
  exact ⟨cmd, slot, hlayout, hmemory, real, hindex, haddress⟩

end Bits

section LoneBits

/-- A frame in which no other bit is set. -/
def loneFrame (slot : Slot) : Frame := (List.replicate 64 0).set slot.byte slot.mask

def oneBitMasks : List UInt8 := (List.range 8).map bitMask

/-- One trouble has a whole byte for itself. -/
lemma layout_masks {cmd : UInt8} {slot : Slot} (h : slot ∈ layout cmd) :
    slot.byte < 64 ∧ (slot.mask ∈ oneBitMasks ∨ slot.mask = 0xFF) ∧
      (slot.mask = 0xFF ↔ slot.byte = 29 ∧ (cmd = 0x1E ∨ cmd = 0x23)) := by
  have all : ∀ cmd ∈ troubleCommands, ∀ slot ∈ layout cmd,
      slot.byte < 64 ∧ (slot.mask ∈ oneBitMasks ∨ slot.mask = 0xFF) ∧
        (slot.mask = 0xFF ↔ slot.byte = 29 ∧ (cmd = 0x1E ∨ cmd = 0x23)) := by
    decide +kernel
  exact all cmd (mem_troubleCommands h) slot h

lemma oneBitMasks_apart : ∀ mask ∈ oneBitMasks, ∀ mask' ∈ oneBitMasks,
    mask &&& mask' ≠ 0 → mask = mask' := by
  decide +kernel

lemma layout_disjoint {cmd : UInt8} {slot slot' : Slot} (h : slot ∈ layout cmd)
    (h' : slot' ∈ layout cmd) (byte : slot.byte = slot'.byte)
    (meet : slot.mask &&& slot'.mask ≠ 0) : slot = slot' := by
  obtain ⟨-, shape, whole⟩ := layout_masks h
  obtain ⟨-, shape', whole'⟩ := layout_masks h'
  have masks : slot.mask = slot'.mask := by
    rcases shape with one | full
    · rcases shape' with one' | full'
      · exact oneBitMasks_apart _ one _ one' meet
      · rw [full', whole.mpr (byte ▸ whole'.mp full')]
    · rw [full, whole'.mpr (byte ▸ whole.mp full)]
  have places : ((layout cmd).map Slot.place).Nodup :=
    (layout_ascending cmd).pairwise.imp Nat.ne_of_lt
  exact List.inj_on_of_nodup_map places h h' (by rw [Slot.place, Slot.place, byte, masks])

lemma loneFrame_raised {cmd : UInt8} {slot slot' : Slot} (h : slot ∈ layout cmd)
    (h' : slot' ∈ layout cmd) : slot'.raised (loneFrame slot) = true ↔ slot' = slot := by
  obtain ⟨bound, shape, -⟩ := layout_masks h
  constructor
  · intro raised
    by_cases byte : slot.byte = slot'.byte
    · have meet : slot.mask &&& slot'.mask ≠ 0 := by
        simpa [Slot.raised, loneFrame, ← byte, bound] using raised
      exact (layout_disjoint h h' byte meet).symm
    · have clear : (loneFrame slot).getD slot'.byte 0 = 0 := by
        rw [loneFrame, List.getD_eq_getElem?_getD, List.getElem?_set_ne byte,
          List.getElem?_getD_replicate_default_eq]
      rw [Slot.raised, clear, UInt8.zero_and] at raised
      cases raised
  · rintro rfl
    have nonzero : slot'.mask ≠ 0 := by
      rintro zero
      rw [zero] at shape
      revert shape
      decide
    simpa [Slot.raised, loneFrame, bound] using nonzero

lemma loneFrame_accepted {cmd : UInt8} {slot : Slot} (h : slot ∈ layout cmd) :
    AcceptsTroubles cmd (loneFrame slot) := by
  have all : ∀ cmd ∈ troubleCommands, AcceptsTroubles cmd (List.replicate 64 0) := by
    decide +kernel
  have accepted := all cmd (mem_troubleCommands h)
  have length : (loneFrame slot).length = (List.replicate 64 (0 : UInt8)).length := List.length_set
  rw [AcceptsTroubles] at accepted ⊢
  rwa [length]

end LoneBits

section Exactness

/-- The decoder accepts the frame and yields the items. -/
def Decoded (cmd : UInt8) (data : Frame) (items : List TroubleItem) : Prop :=
  decodeTroubles cmd data = (.ok (.ok items) : Except Panic _)

lemma mem_flagsOf {items : List TroubleItem} {trouble : TroubleType} {memory active : Bool} :
    ((trouble, memory), active) ∈ flagsOf items ↔ .flag trouble memory active ∈ items := by
  constructor
  · intro h
    obtain ⟨item, hitem, heq⟩ := List.mem_filterMap.mp h
    cases item <;> cases heq
    exact hitem
  · intro h
    exact List.mem_filterMap.mpr ⟨_, h, rfl⟩

/-- The entry is about the trouble, and admits it as a state or as a memory. -/
structure TroubleDescriptor.Covers (entry : TroubleDescriptor) (trouble : TroubleType)
    (memory : Bool) : Prop where
  listed : entry ∈ TroubleType.catalog
  named : trouble.key = some entry.key
  offered : entry.offers memory = true
  admitted : ∃ address, trouble.address = some address ∧ entry.addressing.Admits address

/-- The command, and no other, reports the trouble, with a bit of its own. -/
structure OwnBit (cmd : UInt8) (trouble : TroubleType) (memory : Bool) : Prop where
  told : ∀ data items, Decoded cmd data items →
    ∃ active, .flag trouble memory active ∈ items
  alone : ∃ data items, Decoded cmd data items ∧
    ∀ trouble' memory', .flag trouble' memory' true ∈ items ↔
      trouble' = trouble ∧ memory' = memory
  nowhere_else : ∀ cmd' data items active,
    Decoded cmd' data items →
      .flag trouble memory active ∈ items → cmd' = cmd

lemma decoded_slot {cmd : UInt8} {data : Frame} {items : List TroubleItem}
    (h : Decoded cmd data items) {trouble : TroubleType}
    {memory active : Bool} (hmem : .flag trouble memory active ∈ items) :
    ∃ slot ∈ layout cmd, slot.trouble = trouble ∧ slot.memory = memory ∧
      slot.raised data = active := by
  rw [← mem_flagsOf, flagsOf_decoded h] at hmem
  obtain ⟨slot, hslot, hkey, hraised, -⟩ := Slot.mem_reported.mp hmem
  obtain ⟨htrouble, hmemory⟩ := Prod.mk.inj hkey
  exact ⟨slot, hslot, htrouble, hmemory, hraised⟩

lemma slot_decoded {cmd : UInt8} {data : Frame} {items : List TroubleItem}
    (h : Decoded cmd data items) {slot : Slot}
    (hslot : slot ∈ layout cmd) (real : slot.trouble.isGeneric = false) :
    .flag slot.trouble slot.memory (slot.raised data) ∈ items := by
  rw [← mem_flagsOf, flagsOf_decoded h]
  refine Slot.mem_reported.mpr ⟨slot, hslot, rfl, rfl, ?_⟩
  intro only
  rw [(layout_home slot hslot).2, real] at only
  cases only

lemma slot_covered {cmd : UInt8} {slot : Slot} (h : slot ∈ layout cmd)
    (real : slot.trouble.isGeneric = false) :
    ∃! entry : TroubleDescriptor, entry.Covers slot.trouble slot.memory := by
  obtain ⟨entry, address, hentry, haddress, offered, admitted⟩ := slot_entry h real
  obtain ⟨entry', hentry', named⟩ := index_key slot.trouble real
  have same : entry' = entry := Option.some.inj (hentry'.symm.trans hentry)
  subst same
  refine ⟨entry', ⟨List.mem_of_getElem? hentry, named, offered, address, haddress, admitted⟩, ?_⟩
  intro other covers
  obtain ⟨i, hother⟩ := List.mem_iff_getElem?.mp covers.listed
  have place := index_of_key hother covers.named
  rw [← place, hentry'] at hother
  exact (Option.some.inj hother).symm

lemma slot_own {cmd : UInt8} {slot : Slot} (h : slot ∈ layout cmd)
    (real : slot.trouble.isGeneric = false) : OwnBit cmd slot.trouble slot.memory := by
  constructor
  · intro data items hdecode
    exact ⟨_, slot_decoded hdecode h real⟩
  · rcases decodeTroubles_flags cmd (loneFrame slot) with ⟨-, items, hdecode, -⟩ | ⟨rejected, -⟩
    · refine ⟨loneFrame slot, items, hdecode, ?_⟩
      intro trouble' memory'
      constructor
      · intro hmem
        obtain ⟨slot', hslot', rfl, rfl, raised⟩ := decoded_slot hdecode hmem
        obtain rfl := (loneFrame_raised h hslot').mp raised
        exact ⟨rfl, rfl⟩
      · rintro ⟨rfl, rfl⟩
        have reported := slot_decoded hdecode h real
        rwa [(loneFrame_raised h h).mpr rfl] at reported
    · exact absurd (loneFrame_accepted h) rejected
  · intro cmd' data items active hdecode hmem
    obtain ⟨slot', hslot', htrouble, hmemory, -⟩ := decoded_slot hdecode hmem
    exact (layout_key_unique hslot' h (Prod.ext htrouble hmemory)).1

/-- Every flag that the decoder reports, reserved bits apart, has exactly one entry; and every
address of every entry is one trouble, with a bit of its own in one command. -/
theorem catalog_exact :
    (∀ cmd data items, Decoded cmd data items →
      ∀ trouble memory active, .flag trouble memory active ∈ items →
        trouble.isGeneric = false →
          ∃! entry : TroubleDescriptor, entry.Covers trouble memory) ∧
      ∀ entry ∈ TroubleType.catalog, ∀ memory, entry.offers memory = true →
        ∀ address, entry.addressing.Admits address →
          ∃! trouble : TroubleType, trouble.key = some entry.key ∧
            trouble.address = some address ∧ ∃! cmd, OwnBit cmd trouble memory := by
  constructor
  · intro cmd data items hdecode trouble memory active hmem real
    obtain ⟨slot, hslot, rfl, rfl, -⟩ := decoded_slot hdecode hmem
    exact slot_covered hslot real
  · intro entry listed memory offered address admitted
    obtain ⟨i, hentry⟩ := List.mem_iff_getElem?.mp listed
    obtain ⟨cmd, slot, hslot, rfl, real, hindex, haddress⟩ :=
      slot_of_entry hentry offered admitted
    have own := slot_own hslot real
    refine ⟨slot.trouble, ⟨?_, haddress, cmd, own, ?_⟩, ?_⟩
    · obtain ⟨entry', hentry', named⟩ := index_key slot.trouble real
      rw [hindex, hentry] at hentry'
      rwa [Option.some.inj hentry']
    · intro cmd' own'
      obtain ⟨data, items, hdecode, lone⟩ := own'.alone
      exact own.nowhere_else cmd' data items true hdecode ((lone _ _).mpr ⟨rfl, rfl⟩)
    · rintro other ⟨named, haddress', -⟩
      have place := index_of_key hentry named
      exact index_address_injective (isGeneric_of_key named) real (place.trans hindex.symm)
        (haddress'.trans haddress.symm)

/-- The key fob of master user 1, and the PIN of the second SIM card of module 7. -/
theorem catalog_exact_fob_and_pin :
    (∃! entry : TroubleDescriptor, entry.Covers (.masterKeyFobLowBattery 1) false) ∧
      ∃! trouble : TroubleType, trouble.key = some "gsm_sim_pin_error" ∧
        trouble.address = some (.pair 7 2) ∧ ∃! cmd, OwnBit cmd trouble true := by
  constructor
  · have bit : (⟨.masterKeyFobLowBattery 1, false, 0, 1, false⟩ : Slot) ∈ layout 0x1F := by
      decide +kernel
    obtain ⟨data, items, hdecode, alone⟩ := (slot_own bit rfl).alone
    exact catalog_exact.1 0x1F data items hdecode _ _ true ((alone _ _).mpr ⟨rfl, rfl⟩) rfl
  · exact catalog_exact.2
      (desc "gsm_sim_pin_error" "INT-GSM: SIM Wrong PIN" (.pair 0 7 1 2) none)
      (by decide +kernel) true rfl (.pair 7 2) (by decide)

end Exactness

end SatelIntegra
