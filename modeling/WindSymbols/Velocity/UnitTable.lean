import WindSymbols.Velocity.Unit

/-!
The units that an expression may name, by quantity. A definition is itself an expression in other
units; those without one are the base of their dimension.
-/

namespace WindSymbols.Velocity.UnitTable

def lengths : List NamedUnit := [
    ⟨["meter", "m", "metre"], .base "length"⟩,
    ⟨["angstrom", "Å", "ångström", "Å"], .derived "1e-10 * meter"⟩,
    ⟨["micron", "µ", "μ"], .derived "micrometer"⟩,
    ⟨["fermi", "fm"], .derived "femtometer"⟩,
    ⟨["nautical_mile", "nmi"], .derived "1852 * meter"⟩,
    ⟨["thou", "th", "mil_length"], .derived "1e-3 * inch"⟩,
    ⟨["inch", "in", "international_inch", "inches", "international_inches"], .derived "yard / 36"⟩,
    ⟨["hand"], .derived "4 * inch"⟩,
    ⟨["foot", "ft", "international_foot", "feet", "international_feet"], .derived "yard / 3"⟩,
    ⟨["yard", "yd", "international_yard"], .derived "0.9144 * meter"⟩,
    ⟨["mile", "mi", "international_mile"], .derived "1760 * yard"⟩,
    ⟨["link", "li", "survey_link"], .derived "1e-2 * chain"⟩,
    ⟨["survey_foot", "sft"], .derived "1200 / 3937 * meter"⟩,
    ⟨["fathom"], .derived "6 * survey_foot"⟩,
    ⟨["rod", "rd", "pole", "perch"], .derived "16.5 * survey_foot"⟩,
    ⟨["chain"], .derived "4 * rod"⟩,
    ⟨["furlong", "fur"], .derived "40 * rod"⟩,
    ⟨["cables_length"], .derived "120 * fathom"⟩,
    ⟨["survey_mile", "smi", "us_statute_mile"], .derived "5280 * survey_foot"⟩,
    ⟨["league"], .derived "3 * survey_mile"⟩,
    ⟨["light_year", "ly", "lightyear"], .derived "speed_of_light * julian_year"⟩,
    ⟨["astronomical_unit", "au"], .derived "149597870700 * meter"⟩,
    ⟨["parsec", "pc"], .derived "1 / tansec * astronomical_unit"⟩,
    ⟨["bohr", "a_0", "a0", "bohr_radius", "atomic_unit_of_length", "a_u_length"],
      .derived "hbar / (alpha * m_e * c)"⟩,
    ⟨["planck_length"], .derived "(hbar * gravitational_constant / c ** 3) ** 0.5"⟩,
    ⟨["pica", "printers_pica"], .derived "inch / 6"⟩,
    ⟨["point", "pp", "printers_point", "big_point", "bp"], .derived "pica / 12"⟩,
    ⟨["didot"], .derived "1 / 2660 * m"⟩,
    ⟨["cicero"], .derived "12 * didot"⟩,
    ⟨["tex_point"], .derived "inch / 72.27"⟩,
    ⟨["tex_pica"], .derived "12 * tex_point"⟩,
    ⟨["tex_didot"], .derived "1238 / 1157 * tex_point"⟩,
    ⟨["tex_cicero"], .derived "12 * tex_didot"⟩,
    ⟨["scaled_point"], .derived "tex_point / 65536"⟩,
    ⟨["css_pixel", "px"], .derived "inch / 96"⟩]

def times : List NamedUnit := [
    ⟨["second", "s", "sec"], .base "time"⟩,
    ⟨["minute", "min"], .derived "60 * second"⟩,
    ⟨["hour", "h", "hr"], .derived "60 * minute"⟩,
    ⟨["day", "d"], .derived "24 * hour"⟩,
    ⟨["week"], .derived "7 * day"⟩,
    ⟨["fortnight"], .derived "2 * week"⟩,
    ⟨["year", "a", "yr", "julian_year"], .derived "365.25 * day"⟩,
    ⟨["month"], .derived "year / 12"⟩,
    ⟨["century", "centuries"], .derived "100 * year"⟩,
    ⟨["millennium", "millennia"], .derived "1e3 * year"⟩,
    ⟨["eon"], .derived "1e9 * year"⟩,
    ⟨["shake"], .derived "1e-8 * second"⟩,
    ⟨["svedberg"], .derived "1e-13 * second"⟩,
    ⟨["atomic_unit_of_time", "a_u_time"], .derived "hbar / E_h"⟩,
    ⟨["gregorian_year"], .derived "365.2425 * day"⟩,
    ⟨["sidereal_year"], .derived "365.256363004 * day"⟩,
    ⟨["tropical_year"], .derived "365.242190402 * day"⟩,
    ⟨["common_year"], .derived "365 * day"⟩,
    ⟨["leap_year"], .derived "366 * day"⟩,
    ⟨["sidereal_day"], .derived "day / 1.00273790935079524"⟩,
    ⟨["sidereal_month"], .derived "27.32166155 * day"⟩,
    ⟨["tropical_month"], .derived "27.321582 * day"⟩,
    ⟨["synodic_month", "lunar_month"], .derived "29.530589 * day"⟩,
    ⟨["planck_time"], .derived "(hbar * gravitational_constant / c ** 5) ** 0.5"⟩]

def knot : NamedUnit :=
  ⟨["knot", "kt", "knot_international", "international_knot", "kn"],
    .derived "nautical_mile / hour"⟩

def velocities : List NamedUnit := [
    knot,
    ⟨["mile_per_hour", "mph", "MPH"], .derived "mile / hour"⟩,
    ⟨["kilometer_per_hour", "kph", "KPH"], .derived "kilometer / hour"⟩,
    ⟨["kilometer_per_second", "kps"], .derived "kilometer / second"⟩,
    ⟨["meter_per_second", "mps"], .derived "meter / second"⟩,
    ⟨["foot_per_second", "fps"], .derived "foot / second"⟩,
    ⟨["speed_of_light", "c", "c_0"], .derived "299792458 m/s"⟩]

def ratios : List NamedUnit := [
    ⟨["radian", "rad"], .base ""⟩,
    ⟨["bit"], .base ""⟩,
    ⟨["count"], .base ""⟩,
    ⟨["pi", "π"], .derived "3.1415926535897932384626433832795028841971693993751"⟩,
    ⟨["tansec"], .derived "4.8481368111333441675396429478852851658848753880815e-6"⟩,
    ⟨["ln10"], .derived "2.3025850929940456840179914546843642076011014886288"⟩,
    ⟨["wien_x"], .derived "4.9651142317442763036987591313228939440555849867973"⟩,
    ⟨["wien_u"], .derived "2.8214393721220788934031913302944851953458817440731"⟩,
    ⟨["eulers_number"], .derived "2.71828182845904523536028747135266249775724709369995"⟩,
    ⟨["turn", "revolution", "cycle", "circle"], .derived "2 * π * radian"⟩,
    ⟨["degree", "deg", "arcdeg", "arcdegree", "angular_degree"], .derived "π / 180 * radian"⟩,
    ⟨["arcminute", "arcmin", "arc_minute", "angular_minute"], .derived "degree / 60"⟩,
    ⟨["arcsecond", "arcsec", "arc_second", "angular_second"], .derived "arcminute / 60"⟩,
    ⟨["milliarcsecond", "mas"], .derived "1e-3 * arcsecond"⟩,
    ⟨["grade", "grad", "gon"], .derived "π / 200 * radian"⟩,
    ⟨["mil"], .derived "π / 32000 * radian"⟩,
    ⟨["steradian", "sr"], .derived "radian ** 2"⟩,
    ⟨["square_degree", "sq_deg", "sqdeg"], .derived "(π / 180) ** 2 * sr"⟩,
    ⟨["baud", "Bd", "bps"], .derived "bit / second"⟩,
    ⟨["byte", "B", "octet"], .derived "8 * bit"⟩,
    ⟨["percent"], .derived "0.01"⟩,
    ⟨["permille"], .derived "0.001"⟩,
    ⟨["ppm"], .derived "1e-6"⟩,
    ⟨["refractive_index_unit", "RIU"], .base ""⟩,
    ⟨["zeta", "ζ"], .derived "c / (cm/s)"⟩]

def volumes : List NamedUnit := [
    ⟨["are"], .derived "100 * meter ** 2"⟩,
    ⟨["barn", "b"], .derived "1e-28 * meter ** 2"⟩,
    ⟨["darcy"], .derived "centipoise * centimeter ** 2 / (second * atmosphere)"⟩,
    ⟨["hectare", "ha"], .derived "100 * are"⟩,
    ⟨["liter", "l", "L", "ℓ", "litre"], .derived "decimeter ** 3"⟩,
    ⟨["cubic_centimeter", "cc"], .derived "centimeter ** 3"⟩,
    ⟨["lambda", "λ"], .derived "microliter"⟩,
    ⟨["stere"], .derived "meter ** 3"⟩,
    ⟨["circular_mil", "cmil"], .derived "π / 4 * mil_length ** 2"⟩,
    ⟨["square_inch", "sq_in", "square_inches"], .derived "inch ** 2"⟩,
    ⟨["square_foot", "sq_ft", "square_feet"], .derived "foot ** 2"⟩,
    ⟨["square_yard", "sq_yd"], .derived "yard ** 2"⟩,
    ⟨["square_mile", "sq_mi"], .derived "mile ** 2"⟩,
    ⟨["cubic_inch", "cu_in"], .derived "in ** 3"⟩,
    ⟨["cubic_foot", "cu_ft", "cubic_feet"], .derived "ft ** 3"⟩,
    ⟨["cubic_yard", "cu_yd"], .derived "yd ** 3"⟩,
    ⟨["square_rod", "sq_rod", "sq_pole", "sq_perch"], .derived "rod ** 2"⟩,
    ⟨["acre"], .derived "10 * chain ** 2"⟩,
    ⟨["square_survey_mile", "section"], .derived "survey_mile ** 2"⟩,
    ⟨["square_league"], .derived "league ** 2"⟩,
    ⟨["acre_foot", "acre_feet"], .derived "acre * survey_foot"⟩,
    ⟨["dry_pint", "dpi", "US_dry_pint"], .derived "bushel / 64"⟩,
    ⟨["dry_quart", "dqt", "US_dry_quart"], .derived "bushel / 32"⟩,
    ⟨["dry_gallon", "dgal", "US_dry_gallon"], .derived "bushel / 8"⟩,
    ⟨["peck", "pk"], .derived "bushel / 4"⟩,
    ⟨["bushel", "bu"], .derived "2150.42 cubic_inch"⟩,
    ⟨["dry_barrel", "US_dry_barrel"], .derived "7056 cubic_inch"⟩,
    ⟨["board_foot", "FBM", "board_feet"], .derived "ft * ft * in"⟩,
    ⟨["minim"], .derived "US_pint / 7680"⟩,
    ⟨["fluid_dram", "fldr", "fluidram", "US_fluid_dram", "US_liquid_dram"],
      .derived "US_pint / 128"⟩,
    ⟨["fluid_ounce", "floz", "US_fluid_ounce", "US_liquid_ounce"], .derived "US_pint / 16"⟩,
    ⟨["gill", "gi", "liquid_gill", "US_liquid_gill"], .derived "US_pint / 4"⟩,
    ⟨["US_pint", "pt", "liquid_pint"], .derived "quart / 2"⟩,
    ⟨["fifth", "US_liquid_fifth"], .derived "gallon / 5"⟩,
    ⟨["quart", "qt", "liquid_quart", "US_liquid_quart"], .derived "gallon / 4"⟩,
    ⟨["gallon", "gal", "liquid_gallon", "US_liquid_gallon"], .derived "231 * cubic_inch"⟩,
    ⟨["teaspoon", "tsp"], .derived "fluid_ounce / 6"⟩,
    ⟨["tablespoon", "tbsp"], .derived "fluid_ounce / 2"⟩,
    ⟨["shot", "jig", "US_shot"], .derived "3 * tablespoon"⟩,
    ⟨["cup", "cp", "liquid_cup", "US_liquid_cup"], .derived "US_pint / 2"⟩,
    ⟨["barrel", "bbl"], .derived "31.5 * gallon"⟩,
    ⟨["oil_barrel", "oil_bbl"], .derived "42 * gallon"⟩,
    ⟨["beer_barrel", "beer_bbl"], .derived "31 * gallon"⟩,
    ⟨["hogshead"], .derived "63 * gallon"⟩,
    ⟨["imperial_minim"], .derived "imperial_fluid_ounce / 480"⟩,
    ⟨["imperial_fluid_scruple"], .derived "imperial_fluid_ounce / 24"⟩,
    ⟨["imperial_fluid_drachm", "imperial_fldr", "imperial_fluid_dram"],
      .derived "imperial_fluid_ounce / 8"⟩,
    ⟨["imperial_fluid_ounce", "imperial_floz", "UK_fluid_ounce"], .derived "imperial_pint / 20"⟩,
    ⟨["imperial_gill", "imperial_gi", "UK_gill"], .derived "imperial_pint / 4"⟩,
    ⟨["imperial_cup", "imperial_cp", "UK_cup"], .derived "imperial_pint / 2"⟩,
    ⟨["imperial_pint", "imperial_pt", "UK_pint"], .derived "imperial_gallon / 8"⟩,
    ⟨["imperial_quart", "imperial_qt", "UK_quart"], .derived "imperial_gallon / 4"⟩,
    ⟨["imperial_gallon", "imperial_gal", "UK_gallon"], .derived "4.54609 * liter"⟩,
    ⟨["imperial_peck", "imperial_pk", "UK_pk"], .derived "2 * imperial_gallon"⟩,
    ⟨["imperial_bushel", "imperial_bu", "UK_bushel"], .derived "8 * imperial_gallon"⟩,
    ⟨["imperial_barrel", "imperial_bbl", "UK_bbl"], .derived "36 * imperial_gallon"⟩]

def rates : List NamedUnit := [
    ⟨["hertz", "Hz"], .derived "1 / second"⟩,
    ⟨["revolutions_per_minute", "rpm"], .derived "revolution / minute"⟩,
    ⟨["revolutions_per_second", "rps"], .derived "revolution / second"⟩,
    ⟨["counts_per_second", "cps"], .derived "count / second"⟩,
    ⟨["reciprocal_centimeter", "cm_1", "kayser"], .derived "1 / cm"⟩,
    ⟨["sverdrup", "sv"], .derived "1e6 * meter ** 3 / second"⟩,
    ⟨["galileo", "Gal"], .derived "centimeter / second ** 2"⟩,
    ⟨["standard_gravity", "g_0", "g0", "g_n", "gravity"], .derived "9.80665 m/s^2"⟩,
    ⟨["stokes", "St"], .derived "centimeter ** 2 / second"⟩,
    ⟨["becquerel", "Bq"], .derived "counts_per_second"⟩,
    ⟨["curie", "Ci"], .derived "3.7e10 * becquerel"⟩,
    ⟨["rutherford", "Rd"], .derived "1e6 * becquerel"⟩]

def masses : List NamedUnit := [
    ⟨["gram", "g"], .base "mass"⟩,
    ⟨["metric_ton", "t", "tonne"], .derived "1e3 * kilogram"⟩,
    ⟨["unified_atomic_mass_unit", "u", "amu"], .derived "atomic_mass_constant"⟩,
    ⟨["dalton", "Da"], .derived "atomic_mass_constant"⟩,
    ⟨["grain", "gr"], .derived "64.79891 * milligram"⟩,
    ⟨["gamma_mass"], .derived "microgram"⟩,
    ⟨["carat", "ct", "karat"], .derived "200 * milligram"⟩,
    ⟨["planck_mass"], .derived "(hbar * c / gravitational_constant) ** 0.5"⟩,
    ⟨["dram", "dr", "avoirdupois_dram", "avdp_dram", "drachm"], .derived "pound / 256"⟩,
    ⟨["ounce", "oz", "avoirdupois_ounce", "avdp_ounce"], .derived "pound / 16"⟩,
    ⟨["pound", "lb", "avoirdupois_pound", "avdp_pound"], .derived "7e3 * grain"⟩,
    ⟨["stone"], .derived "14 * pound"⟩,
    ⟨["quarter"], .derived "28 * stone"⟩,
    ⟨["bag"], .derived "94 * pound"⟩,
    ⟨["hundredweight", "cwt", "short_hundredweight"], .derived "100 * pound"⟩,
    ⟨["long_hundredweight"], .derived "112 * pound"⟩,
    ⟨["ton", "short_ton"], .derived "2e3 * pound"⟩,
    ⟨["long_ton"], .derived "2240 * pound"⟩,
    ⟨["slug"], .derived "g_0 * pound * second ** 2 / foot"⟩,
    ⟨["slinch", "blob", "slugette"], .derived "g_0 * pound * second ** 2 / inch"⟩,
    ⟨["UK_hundredweight", "UK_cwt"], .derived "long_hundredweight"⟩,
    ⟨["UK_ton"], .derived "long_ton"⟩,
    ⟨["US_hundredweight", "US_cwt"], .derived "hundredweight"⟩,
    ⟨["US_ton"], .derived "ton"⟩,
    ⟨["pennyweight", "dwt"], .derived "24 * grain"⟩,
    ⟨["troy_ounce", "toz", "ozt"], .derived "480 * grain"⟩,
    ⟨["troy_pound", "tlb", "lbt"], .derived "12 * troy_ounce"⟩,
    ⟨["scruple"], .derived "20 * grain"⟩,
    ⟨["apothecary_dram", "ap_dr"], .derived "3 * scruple"⟩,
    ⟨["apothecary_ounce", "ap_oz"], .derived "8 * apothecary_dram"⟩,
    ⟨["apothecary_pound", "ap_lb"], .derived "12 * apothecary_ounce"⟩,
    ⟨["atomic_mass_constant", "m_u"], .derived "1.66053906660e-27 kg"⟩,
    ⟨["electron_mass", "m_e", "atomic_unit_of_mass", "a_u_mass"], .derived "9.1093837015e-31 kg"⟩,
    ⟨["proton_mass", "m_p"], .derived "1.67262192369e-27 kg"⟩,
    ⟨["neutron_mass", "m_n"], .derived "1.67492749804e-27 kg"⟩,
    ⟨["mercury", "Hg", "Hg_0C", "Hg_32F", "conventional_mercury"],
      .derived "13.5951 * kilogram / liter"⟩,
    ⟨["water", "H2O", "conventional_water"], .derived "1.0 * kilogram / liter"⟩,
    ⟨["mercury_60F", "Hg_60F"], .derived "13.5568 * kilogram / liter"⟩,
    ⟨["water_39F", "water_4C"], .derived "0.999972 * kilogram / liter"⟩,
    ⟨["water_60F"], .derived "0.999001 * kilogram / liter"⟩,
    ⟨["tex", "Tt"], .derived "gram / kilometer"⟩,
    ⟨["dtex"], .derived "decitex"⟩,
    ⟨["denier", "den"], .derived "gram / (9 * kilometer)"⟩,
    ⟨["jute", "Tj"], .derived "pound / (14400 * yard)"⟩,
    ⟨["aberdeen", "Ta"], .derived "jute"⟩,
    ⟨["RKM"], .derived "gf / tex"⟩,
    ⟨["number_english", "Ne", "NeC", "ECC"], .derived "840 * yard / pound"⟩,
    ⟨["number_meter", "Nm"], .derived "kilometer / kilogram"⟩]

def forces : List NamedUnit := [
    ⟨["newton", "N"], .derived "kilogram * meter / second ** 2"⟩,
    ⟨["dyne", "dyn"], .derived "gram * centimeter / second ** 2"⟩,
    ⟨["force_kilogram", "kgf", "kilogram_force", "pond"], .derived "g_0 * kilogram"⟩,
    ⟨["force_gram", "gf", "gram_force"], .derived "g_0 * gram"⟩,
    ⟨["force_metric_ton", "tf", "metric_ton_force", "force_t", "t_force"],
      .derived "g_0 * metric_ton"⟩,
    ⟨["atomic_unit_of_force", "a_u_force"], .derived "E_h / a_0"⟩,
    ⟨["force_ounce", "ozf", "ounce_force"], .derived "g_0 * ounce"⟩,
    ⟨["force_pound", "lbf", "pound_force"], .derived "g_0 * pound"⟩,
    ⟨["force_ton", "ton_force", "force_short_ton", "short_ton_force"], .derived "g_0 * ton"⟩,
    ⟨["force_long_ton", "long_ton_force"], .derived "g_0 * long_ton"⟩,
    ⟨["kip"], .derived "1e3 * force_pound"⟩,
    ⟨["poundal", "pdl"], .derived "pound * foot / second ** 2"⟩,
    ⟨["UK_force_ton", "UK_ton_force"], .derived "force_long_ton"⟩,
    ⟨["US_force_ton", "US_ton_force"], .derived "force_ton"⟩,
    ⟨["pascal", "Pa"], .derived "newton / meter ** 2"⟩,
    ⟨["barye", "Ba", "barie", "barad", "barrie", "baryd"], .derived "dyne / centimeter ** 2"⟩,
    ⟨["bar"], .derived "1e5 * pascal"⟩,
    ⟨["standard_atmosphere", "atm", "atmosphere"], .derived "1.01325e5 Pa"⟩,
    ⟨["technical_atmosphere", "at"], .derived "kilogram * g_0 / centimeter ** 2"⟩,
    ⟨["torr"], .derived "atm / 760"⟩,
    ⟨["pound_force_per_square_inch", "psi"], .derived "force_pound / inch ** 2"⟩,
    ⟨["kip_per_square_inch", "ksi"], .derived "kip / inch ** 2"⟩,
    ⟨["millimeter_Hg", "mmHg", "mm_Hg", "millimeter_Hg_0C"], .derived "millimeter * Hg * g_0"⟩,
    ⟨["centimeter_Hg", "cmHg", "cm_Hg", "centimeter_Hg_0C"], .derived "centimeter * Hg * g_0"⟩,
    ⟨["inch_Hg", "inHg", "in_Hg", "inch_Hg_32F"], .derived "inch * Hg * g_0"⟩,
    ⟨["inch_Hg_60F"], .derived "inch * mercury_60F * g_0"⟩,
    ⟨["inch_H2O_39F"], .derived "inch * water_39F * g_0"⟩,
    ⟨["inch_H2O_60F"], .derived "inch * water_60F * g_0"⟩,
    ⟨["foot_H2O", "ftH2O", "feet_H2O"], .derived "foot * water * g_0"⟩,
    ⟨["centimeter_H2O", "cmH2O", "cm_H2O"], .derived "centimeter * water * g_0"⟩,
    ⟨["sound_pressure_level", "SPL"], .derived "20e-6 * pascal"⟩,
    ⟨["foot_pound", "ft_lb", "footpound"], .derived "foot * force_pound"⟩,
    ⟨["poise", "P"], .derived "0.1 * Pa * second"⟩,
    ⟨["reyn"], .derived "psi * second"⟩,
    ⟨["rhe"], .derived "1 / poise"⟩]

def energies : List NamedUnit := [
    ⟨["joule", "J"], .derived "newton * meter"⟩,
    ⟨["erg"], .derived "dyne * centimeter"⟩,
    ⟨["watt_hour", "Wh", "watthour"], .derived "watt * hour"⟩,
    ⟨["electron_volt", "eV"], .derived "e * volt"⟩,
    ⟨["rydberg", "Ry"], .derived "planck_constant * c * R_inf"⟩,
    ⟨["hartree", "E_h", "Eh", "hartree_energy", "atomic_unit_of_energy", "a_u_energy"],
      .derived "2 * rydberg"⟩,
    ⟨["calorie", "cal", "thermochemical_calorie", "cal_th"], .derived "4.184 * joule"⟩,
    ⟨["international_calorie", "cal_it", "international_steam_table_calorie"],
      .derived "4.1868 * joule"⟩,
    ⟨["fifteen_degree_calorie", "cal_15"], .derived "4.1855 * joule"⟩,
    ⟨["british_thermal_unit", "Btu", "BTU", "Btu_iso"], .derived "1055.056 * joule"⟩,
    ⟨["international_british_thermal_unit", "Btu_it"],
      .derived "1e3 * pound / kilogram * degR / kelvin * international_calorie"⟩,
    ⟨["thermochemical_british_thermal_unit", "Btu_th"],
      .derived "1e3 * pound / kilogram * degR / kelvin * calorie"⟩,
    ⟨["quadrillion_Btu", "quad"], .derived "1e15 * Btu"⟩,
    ⟨["therm", "thm", "EC_therm"], .derived "1e5 * Btu"⟩,
    ⟨["US_therm"], .derived "1.054804e8 * joule"⟩,
    ⟨["ton_TNT", "tTNT"], .derived "1e9 * calorie"⟩,
    ⟨["tonne_of_oil_equivalent", "toe"], .derived "1e10 * international_calorie"⟩,
    ⟨["atmosphere_liter", "atm_l"], .derived "atmosphere * liter"⟩,
    ⟨["watt", "W"], .derived "joule / second"⟩,
    ⟨["volt_ampere", "VA"], .derived "volt * ampere"⟩,
    ⟨["horsepower", "hp", "UK_horsepower", "hydraulic_horsepower"],
      .derived "550 * foot * force_pound / second"⟩,
    ⟨["boiler_horsepower"], .derived "33475 * Btu / hour"⟩,
    ⟨["metric_horsepower"], .derived "75 * force_kilogram * meter / second"⟩,
    ⟨["electrical_horsepower"], .derived "746 * watt"⟩,
    ⟨["refrigeration_ton", "ton_of_refrigeration"], .derived "12e3 * Btu / hour"⟩,
    ⟨["cooling_tower_ton"], .derived "1.25 * refrigeration_ton"⟩,
    ⟨["standard_liter_per_minute", "slpm", "slm"], .derived "atmosphere * liter / minute"⟩,
    ⟨["gray", "Gy"], .derived "joule / kilogram"⟩,
    ⟨["sievert", "Sv"], .derived "joule / kilogram"⟩,
    ⟨["rads"], .derived "0.01 * gray"⟩,
    ⟨["rem"], .derived "0.01 * sievert"⟩,
    ⟨["langley", "Ly"], .derived "thermochemical_calorie / centimeter ** 2"⟩,
    ⟨["peak_sun_hour", "PSH"], .derived "1e3 * watt_hour / meter ** 2"⟩,
    ⟨["planck_constant", "ℎ"], .derived "6.62607015e-34 J s"⟩,
    ⟨["dirac_constant", "ħ", "hbar", "atomic_unit_of_action", "a_u_action"],
      .derived "planck_constant / (2 * π)"⟩,
    ⟨["newtonian_constant_of_gravitation", "gravitational_constant"],
      .derived "6.67430e-11 m^3/(kg s^2)"⟩]

def temperatures : List NamedUnit := [
    ⟨["kelvin", "K", "degK", "degree_Kelvin", "degreeK"], .base "temperature"⟩,
    ⟨["degree_Rankine", "rankine", "degR", "degreeR"], .derived "5 / 9 * kelvin"⟩,
    ⟨["delta_degree_Celsius", "Δcelsius", "ΔdegC", "ΔdegreeC", "delta_celsius", "delta_degC",
      "delta_degreeC", "degree_Celsius", "celsius", "degC", "degreeC"], .derived "kelvin"⟩,
    ⟨["delta_degree_Fahrenheit", "Δfahrenheit", "ΔdegF", "ΔdegreeF", "delta_fahrenheit",
      "delta_degF", "delta_degreeF", "degree_Fahrenheit", "fahrenheit", "degF", "degreeF"],
      .derived "5 / 9 * kelvin"⟩,
    ⟨["delta_degree_Reaumur", "Δreaumur", "ΔdegRe", "ΔdegreeRe", "Δdegree_Réaumur", "Δréaumur",
      "delta_reaumur", "delta_degRe", "delta_degreeRe", "delta_degree_Réaumur", "delta_réaumur",
      "degree_Reaumur", "reaumur", "degRe", "degreeRe", "degree_Réaumur", "réaumur"],
      .derived "4 / 5 * kelvin"⟩,
    ⟨["atomic_unit_of_temperature", "a_u_temp"], .derived "E_h / k"⟩,
    ⟨["planck_temperature"], .derived "(hbar * c ** 5 / gravitational_constant / k ** 2) ** 0.5"⟩,
    ⟨["boltzmann_constant", "k", "k_B"], .derived "1.380649e-23 J K^-1"⟩,
    ⟨["clausius", "Cl"], .derived "calorie / kelvin"⟩,
    ⟨["entropy_unit", "eu"], .derived "calorie / kelvin / mole"⟩]

def substances : List NamedUnit := [
    ⟨["mole", "mol"], .base "substance"⟩,
    ⟨["particle", "molec"], .derived "1 / N_A"⟩,
    ⟨["molar", "M"], .derived "mole / liter"⟩,
    ⟨["katal", "kat"], .derived "mole / second"⟩,
    ⟨["enzyme_unit", "U", "enzymeunit"], .derived "micromole / minute"⟩,
    ⟨["avogadro_number"], .derived "6.02214076e23"⟩,
    ⟨["avogadro_constant", "N_A"], .derived "avogadro_number * mol^-1"⟩,
    ⟨["molar_gas_constant", "R"], .derived "k * N_A"⟩,
    ⟨["faraday_constant"], .derived "e * N_A"⟩]

def lights : List NamedUnit := [
    ⟨["candela", "cd", "candle"], .base "luminosity"⟩,
    ⟨["nit"], .derived "candela / meter ** 2"⟩,
    ⟨["stilb"], .derived "candela / centimeter ** 2"⟩,
    ⟨["lambert"], .derived "1 / π * candela / centimeter ** 2"⟩,
    ⟨["lumen", "lm"], .derived "candela * steradian"⟩,
    ⟨["lux", "lx"], .derived "lumen / meter ** 2"⟩]

def electricities : List NamedUnit := [
    ⟨["ampere", "A", "amp"], .base "current"⟩,
    ⟨["biot", "Bi"], .derived "10 * ampere"⟩,
    ⟨["abampere", "abA"], .derived "biot"⟩,
    ⟨["atomic_unit_of_current", "a_u_current"], .derived "e / atomic_unit_of_time"⟩,
    ⟨["planck_current"], .derived "(c ** 6 / gravitational_constant / k_C) ** 0.5"⟩,
    ⟨["coulomb", "C"], .derived "ampere * second"⟩,
    ⟨["abcoulomb", "abC"], .derived "10 * C"⟩,
    ⟨["faraday"], .derived "e * N_A * mole"⟩,
    ⟨["ampere_hour", "Ah"], .derived "ampere * hour"⟩,
    ⟨["elementary_charge", "e"], .derived "1.602176634e-19 C"⟩,
    ⟨["volt", "V"], .derived "joule / coulomb"⟩,
    ⟨["abvolt", "abV"], .derived "1e-8 * volt"⟩,
    ⟨["atomic_unit_of_electric_field", "a_u_electric_field"], .derived "e * k_C / a_0 ** 2"⟩,
    ⟨["atomic_unit_of_intensity", "a_u_intensity"],
      .derived "0.5 * ε_0 * c * atomic_unit_of_electric_field ** 2"⟩,
    ⟨["townsend", "Td"], .derived "1e-21 * V * m^2"⟩,
    ⟨["ohm", "Ω"], .derived "volt / ampere"⟩,
    ⟨["abohm", "abΩ"], .derived "1e-9 * ohm"⟩,
    ⟨["siemens", "S", "mho"], .derived "ampere / volt"⟩,
    ⟨["absiemens", "abS", "abmho"], .derived "1e9 * siemens"⟩,
    ⟨["farad", "F"], .derived "coulomb / volt"⟩,
    ⟨["abfarad", "abF"], .derived "1e9 * farad"⟩,
    ⟨["weber", "Wb"], .derived "volt * second"⟩,
    ⟨["unit_pole"], .derived "µ_0 * biot * centimeter"⟩,
    ⟨["henry", "H"], .derived "weber / ampere"⟩,
    ⟨["abhenry", "abH"], .derived "1e-9 * henry"⟩,
    ⟨["tesla", "T"], .derived "weber / meter ** 2"⟩,
    ⟨["gamma", "γ"], .derived "1e-9 * tesla"⟩,
    ⟨["ampere_turn", "At"], .derived "ampere"⟩,
    ⟨["biot_turn"], .derived "biot"⟩,
    ⟨["gilbert", "Gb"], .derived "1 / (4 * π) * biot_turn"⟩,
    ⟨["debye", "D"], .derived "1e-9 / ζ * coulomb * angstrom"⟩,
    ⟨["buckingham"], .derived "debye * angstrom"⟩,
    ⟨["bohr_magneton", "µ_B", "mu_B"], .derived "e * hbar / (2 * m_e)"⟩,
    ⟨["nuclear_magneton", "µ_N", "mu_N"], .derived "e * hbar / (2 * m_p)"⟩,
    ⟨["roentgen", "röntgen"], .derived "2.58e-4 * coulomb / kilogram"⟩,
    ⟨["conductance_quantum", "G_0"], .derived "2 * e ** 2 / planck_constant"⟩,
    ⟨["magnetic_flux_quantum", "Φ_0", "Phi_0"], .derived "planck_constant / (2 * e)"⟩,
    ⟨["josephson_constant", "K_J"], .derived "2 * e / planck_constant"⟩,
    ⟨["von_klitzing_constant", "R_K"], .derived "planck_constant / e ** 2"⟩,
    ⟨["franklin", "Fr", "statcoulomb", "statC", "esu"], .derived "erg ** 0.5 * centimeter ** 0.5"⟩,
    ⟨["statvolt", "statV"], .derived "erg / franklin"⟩,
    ⟨["statampere", "statA"], .derived "franklin / second"⟩,
    ⟨["gauss", "G"], .derived "dyne / franklin"⟩,
    ⟨["maxwell", "Mx"], .derived "gauss * centimeter ** 2"⟩,
    ⟨["oersted", "Oe", "ørsted"], .derived "dyne / maxwell"⟩,
    ⟨["statohm", "statΩ"], .derived "statvolt / statampere"⟩,
    ⟨["statfarad", "statF"], .derived "franklin / statvolt"⟩,
    ⟨["statmho"], .derived "statampere / statvolt"⟩,
    ⟨["statweber", "statWb"], .derived "statvolt * second"⟩,
    ⟨["stattesla", "statT"], .derived "statweber / centimeter ** 2"⟩,
    ⟨["stathenry", "statH"], .derived "statweber / statampere"⟩]

def constants : List NamedUnit := [
    ⟨["stefan_boltzmann_constant", "σ", "sigma"],
      .derived "2 / 15 * π ** 5 * k ** 4 / (planck_constant ** 3 * c ** 2)"⟩,
    ⟨["first_radiation_constant", "c_1"], .derived "2 * π * planck_constant * c ** 2"⟩,
    ⟨["second_radiation_constant", "c_2"], .derived "planck_constant * c / k"⟩,
    ⟨["wien_wavelength_displacement_law_constant"], .derived "planck_constant * c / (k * wien_x)"⟩,
    ⟨["wien_frequency_displacement_law_constant"], .derived "wien_u * k / planck_constant"⟩,
    ⟨["rydberg_constant", "R_∞", "R_inf"], .derived "1.0973731568160e7 * m^-1"⟩,
    ⟨["electron_g_factor", "g_e"], .derived "-2.00231930436256"⟩,
    ⟨["fine_structure_constant", "α", "alpha"],
      .derived "(2 * planck_constant * R_inf / (m_e * c)) ** 0.5"⟩,
    ⟨["vacuum_permeability", "µ_0", "mu_0", "mu0", "magnetic_constant"],
      .derived "2 * α * planck_constant / (e ** 2 * c)"⟩,
    ⟨["vacuum_permittivity", "ε_0", "epsilon_0", "eps_0", "eps0", "electric_constant"],
      .derived "e ** 2 / (2 * α * planck_constant * c)"⟩,
    ⟨["impedance_of_free_space", "Z_0", "characteristic_impedance_of_vacuum"],
      .derived "2 * α * planck_constant / e ** 2"⟩,
    ⟨["coulomb_constant", "k_C"], .derived "α * hbar * c / e ** 2"⟩,
    ⟨["classical_electron_radius", "r_e"], .derived "α * hbar / (m_e * c)"⟩,
    ⟨["thomson_cross_section", "σ_e", "sigma_e"], .derived "8 / 3 * π * r_e ** 2"⟩,
    ⟨["pixel", "dot", "pel", "picture_element"], .base "printing_unit"⟩,
    ⟨["pixels_per_centimeter", "PPCM"], .derived "pixel / cm"⟩,
    ⟨["pixels_per_inch", "dots_per_inch", "PPI", "ppi", "DPI", "printers_dpi"],
      .derived "pixel / inch"⟩,
    ⟨["bits_per_pixel", "bpp"], .derived "bit / pixel"⟩]

def levels : List NamedUnit := [
    ⟨["decibelwatt", "dBW"], .level⟩,
    ⟨["decibelmilliwatt", "dBm"], .level⟩,
    ⟨["decibelmicrowatt", "dBu"], .level⟩,
    ⟨["decibel", "dB"], .level⟩,
    ⟨["decade"], .level⟩,
    ⟨["octave", "oct"], .level⟩,
    ⟨["neper", "Np"], .level⟩]

def all : List NamedUnit :=
  lengths ++ times ++ velocities ++ ratios ++ volumes ++ rates ++ masses ++ forces ++ energies ++
    temperatures ++ substances ++ lights ++ electricities ++ constants ++ levels

end WindSymbols.Velocity.UnitTable
