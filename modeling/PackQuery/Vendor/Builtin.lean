import PackQuery.Dict

/-!
# Built-in vendor tables

The vendors of software packs with their ids. Names map to ids, several spellings to one; ids map
to the name that a vendor goes by; and ids of vendors that were taken over map to the id of the
vendor that took them over.
-/

namespace PackQuery.Vendor

/-- The ids of vendor names, in key order. -/
def idTable : List (String × String) :=
  [("3PEAK", "177"), ("ABOV", "126"), ("ABOV Semiconductor", "126"), ("ALi", "50"),
   ("ARM", "82"), ("ARM CMSIS", "109"), ("ASIX Electronics Corporation", "81"),
   ("Acer Labs", "20"), ("Actel", "56"), ("Aeroflex UTMC", "34"), ("Altera", "85"),
   ("Altium", "65"), ("Ambiq Micro", "120"), ("Analog Devices", "1"), ("AnchorChips", "2"),
   ("Atmel", "3"), ("Atmel Wireless & uC", "22"), ("AustriaMicroSystems", "84"),
   ("AutoChips", "150"), ("CAST, Inc.", "55"), ("CML Microcircuits", "45"), ("CORERIVER", "96"),
   ("CSR", "118"), ("California Eastern Laboratories", "94"), ("Chipcon", "42"),
   ("Cirrus Logic", "83"), ("Cybernetic Micro Systems", "29"), ("CybraTech", "43"),
   ("Cygnal Integrated Products", "60"), ("Cypress", "19"), ("Daewoo", "27"),
   ("Dallas Semiconductor", "4"), ("Dialog Semiconductor", "113"), ("Digi International", "87"),
   ("Digital Core Design", "58"), ("Dolphin", "57"), ("Domosys", "26"),
   ("EM Microelectronic", "74"), ("Ember", "98"), ("EnOcean", "91"), ("Energy Micro", "21"),
   ("Evatronix", "64"), ("Freescale", "11"), ("Freescale Semiconductor", "11"),
   ("Freescale Semiconductors", "11"), ("Fujitsu", "19"), ("Fujitsu Semiconductor", "19"),
   ("Fujitsu Semiconductors", "19"), ("Generic", "5"), ("Genesis Microchip", "53"),
   ("GigaDevice", "123"), ("Goal Semiconductor", "77"), ("Goodix", "155"),
   ("Handshake Solutions", "71"), ("Hilscher", "88"), ("Holtek", "106"), ("Honeywell", "36"),
   ("Hynix Semiconductor", "6"), ("Hyundai", "35"), ("ISSI", "9"), ("Infineon", "7"),
   ("InnovASIC", "38"), ("Intel", "8"), ("Kawasaki", "49"), ("Kionix", "127"),
   ("LAPIS Technology", "10"), ("Lapis Semiconductor", "10"), ("Luminary Micro", "76"),
   ("MXIC", "40"), ("Maxim", "23"), ("MediaTek", "129"), ("MegaChips", "128"),
   ("Megawin", "70"), ("Mentor Graphics Co.", "24"), ("Microchip", "3"), ("Micronas", "30"),
   ("Microsemi", "112"), ("Milandr", "99"), ("MindMotion", "132"), ("Myson Technology", "32"),
   ("NO_VENDOR", "0"), ("NXP", "11"), ("NXP (founded by Philips)", "11"), ("NetSilicon", "67"),
   ("Nordic Semiconductor", "54"), ("Nuvoton", "18"), ("OKI SEMICONDUCTOR CO.,LTD.", "108"),
   ("ONSemiconductor", "141"), ("Oregano Systems", "44"), ("PalmChip", "105"),
   ("Philips", "79"), ("RDC Semiconductor", "73"), ("ROHM", "103"), ("RadioPulse", "86"),
   ("Ramtron", "41"), ("Realtek", "124"), ("Realtek Semiconductor", "124"),
   ("Redpine Signals", "125"), ("Renesas", "117"), ("SMSC", "33"), ("SONiX", "110"),
   ("SST", "12"), ("ST", "13"), ("STMicroelectronics", "13"), ("Samsung", "47"),
   ("Sanyo", "46"), ("Shanghai Huahong IC", "66"), ("Sharp", "39"), ("Siemens", "25"),
   ("Sigma Designs", "111"), ("Silicon Laboratories, Inc.", "21"), ("Silicon Labs", "21"),
   ("Siliconians", "28"), ("Socle Technology Corp.", "95"), ("Spansion", "19"),
   ("Sunrise Micro Devices", "121"), ("SyncMOS", "63"), ("Synopsys", "37"),
   ("Syntek Semiconductor Co., Ltd.", "62"), ("TDK", "75"), ("TI", "16"), ("Tekmos", "80"),
   ("Temic", "15"), ("Teridian Semiconductor Corp.", "14"), ("Texas Instruments", "16"),
   ("Tezzaron Semiconductor", "68"), ("Toshiba", "92"), ("Triad Semiconductor", "104"),
   ("Triscend", "17"), ("Uniband Electronic Corp.", "101"), ("Vitesse", "72"),
   ("WIZnet", "102"), ("WiNEDGE", "48"), ("Winbond", "93"), ("Zensys", "59"), ("Zilog", "89"),
   ("Zylogic Semiconductor Corp.", "69"), ("easyplug", "61"), ("milandr", "99"),
   ("onsemi", "141")]

/-- The names that vendors go by, by id, in key order. -/
def nameTable : List (String × String) :=
  [("0", "NO_VENDOR"), ("1", "Analog Devices"), ("10", "LAPIS Technology"), ("100", "Cypress"),
   ("101", "Uniband Electronic Corp."), ("102", "WIZnet"), ("103", "ROHM"),
   ("104", "Triad Semiconductor"), ("105", "PalmChip"), ("106", "Holtek"),
   ("108", "OKI SEMICONDUCTOR CO.,LTD."), ("109", "ARM CMSIS"), ("11", "NXP"), ("110", "SONiX"),
   ("111", "Sigma Designs"), ("112", "Microsemi"), ("113", "Dialog Semiconductor"),
   ("114", "Cypress"), ("117", "Renesas"), ("118", "CSR"), ("12", "SST"),
   ("120", "Ambiq Micro"), ("121", "Sunrise Micro Devices"), ("122", "WIZnet"),
   ("123", "GigaDevice"), ("124", "Realtek Semiconductor"), ("125", "Redpine Signals"),
   ("126", "ABOV Semiconductor"), ("127", "Kionix"), ("128", "MegaChips"), ("129", "MediaTek"),
   ("13", "STMicroelectronics"), ("132", "MindMotion"), ("14", "Teridian Semiconductor Corp."),
   ("141", "onsemi"), ("15", "Temic"), ("150", "AutoChips"), ("155", "Goodix"),
   ("16", "Texas Instruments"), ("17", "Triscend"), ("177", "3PEAK"), ("18", "Nuvoton"),
   ("19", "Cypress"), ("2", "AnchorChips"), ("20", "Acer Labs"), ("21", "Silicon Labs"),
   ("22", "Atmel Wireless & uC"), ("23", "Maxim"), ("24", "Mentor Graphics Co."),
   ("25", "Siemens"), ("26", "Domosys"), ("27", "Daewoo"), ("28", "Siliconians"),
   ("29", "Cybernetic Micro Systems"), ("3", "Microchip"), ("30", "Micronas"),
   ("32", "Myson Technology"), ("33", "SMSC"), ("34", "Aeroflex UTMC"), ("35", "Hyundai"),
   ("36", "Honeywell"), ("37", "Synopsys"), ("38", "InnovASIC"), ("39", "Sharp"),
   ("4", "Dallas Semiconductor"), ("40", "MXIC"), ("41", "Ramtron"), ("42", "Chipcon"),
   ("43", "CybraTech"), ("44", "Oregano Systems"), ("45", "CML Microcircuits"), ("46", "Sanyo"),
   ("47", "Samsung"), ("48", "WiNEDGE"), ("49", "Kawasaki"), ("5", "Generic"), ("50", "ALi"),
   ("53", "Genesis Microchip"), ("54", "Nordic Semiconductor"), ("55", "CAST, Inc."),
   ("56", "Actel"), ("57", "Dolphin"), ("58", "Digital Core Design"), ("59", "Zensys"),
   ("6", "Hynix Semiconductor"), ("60", "Cygnal Integrated Products"), ("61", "easyplug"),
   ("62", "Syntek Semiconductor Co., Ltd."), ("63", "SyncMOS"), ("64", "Evatronix"),
   ("65", "Altium"), ("66", "Shanghai Huahong IC"), ("67", "NetSilicon"),
   ("68", "Tezzaron Semiconductor"), ("69", "Zylogic Semiconductor Corp."), ("7", "Infineon"),
   ("70", "Megawin"), ("71", "Handshake Solutions"), ("72", "Vitesse"),
   ("73", "RDC Semiconductor"), ("74", "EM Microelectronic"), ("75", "TDK"),
   ("76", "Luminary Micro"), ("77", "Goal Semiconductor"), ("78", "NXP"), ("79", "Philips"),
   ("8", "Intel"), ("80", "Tekmos"), ("81", "ASIX Electronics Corporation"), ("82", "ARM"),
   ("83", "Cirrus Logic"), ("84", "AustriaMicroSystems"), ("85", "Altera"),
   ("86", "RadioPulse"), ("87", "Digi International"), ("88", "Hilscher"), ("89", "Zilog"),
   ("9", "ISSI"), ("91", "EnOcean"), ("92", "Toshiba"), ("93", "Winbond"),
   ("94", "California Eastern Laboratories"), ("95", "Socle Technology Corp."),
   ("96", "CORERIVER"), ("97", "Silicon Labs"), ("98", "Ember"), ("99", "Milandr")]

/-- The current ids of retired ids, in key order. -/
def successorTable : List (String × String) :=
  [("100", "19"), ("114", "19"), ("78", "11"), ("97", "21")]

/-- The ids of the built-in vendor names. -/
def builtinIds : Dict String := .ofIncreasing idTable (by decide +kernel)

/-- The names that the built-in vendors go by. -/
def builtinNames : Dict String := .ofIncreasing nameTable (by decide +kernel)

/-- The current ids of the built-in retired ids. -/
def builtinSuccessors : Dict String := .ofIncreasing successorTable (by decide +kernel)

end PackQuery.Vendor
